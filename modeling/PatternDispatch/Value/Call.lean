import PatternDispatch.Value.Arithmetic
import PatternDispatch.Value.Construct

/-!
Calling a value. Of the functions two do something, and the one without a name does nothing; a
class makes an object of its own; an object whose class makes it callable answers null.
-/

namespace PatternDispatch.Value

/-- The number of items of a value that has a length. -/
def length (v : Value) : Except Failure Nat :=
  match v.items? with
  | some items => .ok items.length
  | none => .error (.misuse (if v.isArray then .unsized else .noLength v.qualifiedTypeName))

/-- Calls a function by its name. -/
def callFunction (name : Text) (arguments : List Value) : Except Failure Value :=
  let unary (f : Value → Except Failure Value) : Except Failure Value :=
    match arguments with
    | [v] => f v
    | _ => .error (.misuse (.argumentCount name arguments.length))
  if name = Text.ofString "len" then unary fun v => v.length.map fun n => int n
  else if name = Text.ofString "abs" then unary magnitude
  else if arguments.isEmpty then .ok null
  else .error (.misuse (.argumentsLeft (Text.ofString "<lambda>") 0 arguments.length))

/-- The class of wrappers takes the value to wrap. -/
def wrap (arguments : List Value) : Except Failure Value :=
  let method := Text.ofString "Pass.__init__"
  match arguments with
  | [] => .error (.misuse (.argumentsMissing method [Text.ofString "value"]))
  | [v] => .ok (pass v)
  | _ => .error (.misuse (.argumentsLeft method 2 (arguments.length + 1)))

def call (classes : ClassTable) (callee : Value) (arguments : List Value) :
    Except Failure Value :=
  match callee with
  | function name => callFunction name arguments
  | classRef name _ =>
    match classes.find? name with
    | some c => c.make classes arguments
    | none => wrap arguments
  | v =>
    if v.isCallable classes then .ok null else .error (.notCallable v.qualifiedTypeName)

end PatternDispatch.Value
