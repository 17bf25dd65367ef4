import PatternDispatch.Value.Class

/-!
What is given where a function is expected.
-/

namespace PatternDispatch

inductive Offer (α : Type) where
  | function (f : α)
  | nothing
  /-- Something that cannot be called, of the named type. -/
  | other (typeName : Text)

namespace Offer

def typeName {α : Type} : Offer α → Text
  | function _ => Text.ofString "function"
  | nothing => Value.typeName .null
  | other typeName => typeName

/-- A value given in place of a function, which it serves as if it can be called. -/
def ofValue {α : Type} (classes : ClassTable) (serve : Value → α) (v : Value) : Offer α :=
  match v with
  | .null => nothing
  | v => if v.isCallable classes then function (serve v) else other v.typeName

end Offer

end PatternDispatch
