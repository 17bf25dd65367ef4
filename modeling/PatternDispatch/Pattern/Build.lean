import PatternDispatch.Pattern
import PatternDispatch.Text.Display

/-!
Class patterns put together by hand. The way of taking a value apart has to agree with what is
given for its components.
-/

namespace PatternDispatch.Pattern

inductive BuildError where
  | unknownDestructure (name : Text)
  | wrongComponents (destructure held : String)
deriving DecidableEq, Repr

def BuildError.message : BuildError → Text
  | unknownDestructure name => name.displayed
  | wrongComponents destructure held =>
    Text.ofString ("ClassPattern '" ++ destructure ++ "' destructure cannot hold " ++ held)

/-- A class pattern that takes a value apart in the named way. -/
def ofClass (name destructure : Text) (components : Option Pattern) : Except BuildError Pattern :=
  let held := (components.map nodeName).getD "NoneType"
  if destructure = Text.ofString "none" then
    match components with
    | none => .ok (.tag name)
    | some _ => .error (.wrongComponents "none" held)
  else if destructure = Text.ofString "positional" then
    match components with
    | some (.array items) => .ok (.tagArray name items)
    | _ => .error (.wrongComponents "positional" held)
  else if destructure = Text.ofString "keyed" then
    match components with
    | some (.object items) => .ok (.tagObject name items)
    | _ => .error (.wrongComponents "keyed" held)
  else .error (.unknownDestructure destructure)

end PatternDispatch.Pattern
