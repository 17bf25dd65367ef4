import PatternDispatch.Failure

/-!
Sum types as patterns consult them. A name can stand for classes, the variants of a sum type, and a
value of a variant has slots. A look-up always answers, asking for slots can fail, and what is
answered depends on nothing but what is asked.
-/

namespace PatternDispatch

structure SumTypes where
  /-- The variants that a name stands for. -/
  find? : Text → Option (List Text)
  arity : Value → Except Failure Int
  slot : Value → Int → Except Failure Value

namespace SumTypes

/-- So many slots from a position on. The first that fails ends the reading. -/
def slotsFrom (types : SumTypes) (v : Value) (position : Nat) : Nat → Except Failure (List Value)
  | 0 => .ok []
  | count + 1 =>
    match types.slot v position with
    | .error failure => .error failure
    | .ok value =>
      match slotsFrom types v (position + 1) count with
      | .error failure => .error failure
      | .ok values => .ok (value :: values)

/-- All slots of a value in order. -/
def slots (types : SumTypes) (v : Value) : Except Failure Value :=
  match types.arity v with
  | .error failure => .error failure
  | .ok arity => (types.slotsFrom v 0 arity.toNat).map .list

end SumTypes

end PatternDispatch
