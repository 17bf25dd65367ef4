import PatternDispatch.Value.Class

/-!
The kinds of values. The order of the tests decides where a value would fit several kinds: a text
of a derived class is a string before anything else, and an object that can be called is callable
only if it is no number, string, sequence or mapping.
-/

namespace PatternDispatch

inductive Kind where
  | null
  | undefined
  | boolean
  | number
  | string
  | sequence
  | mapping
  | date
  | regexp
  | callable
  | other
deriving DecidableEq, Repr

namespace Kind

def word : Kind → String
  | null => "null"
  | undefined => "undefined"
  | boolean => "boolean"
  | number => "number"
  | string => "string"
  | sequence => "sequence"
  | mapping => "mapping"
  | date => "date"
  | regexp => "regexp"
  | callable => "callable"
  | other => "instance"

/-- The class names that stand for a kind in patterns. -/
def tags : List (Text × Kind) :=
  [("Null", null), ("Undefined", undefined), ("Boolean", boolean), ("Number", number),
    ("String", string), ("Array", sequence), ("Object", mapping), ("Function", callable),
    ("Date", date), ("RegExp", regexp)].map fun (name, kind) => (Text.ofString name, kind)

def ofTag? (name : Text) : Option Kind := tags.lookup name

end Kind

def Value.kind (classes : ClassTable) (v : Value) : Kind :=
  match v with
  | .null => .null
  | .undefined => .undefined
  | .bool _ => .boolean
  | v =>
    if v.isNumber then .number
    else if v.text?.isSome then .string
    else if v.isSequence then .sequence
    else if v.isMapping then .mapping
    else match v with
      | .moment _ _ => .date
      | .regexp _ => .regexp
      | v => if v.isCallable classes then .callable else .other

end PatternDispatch
