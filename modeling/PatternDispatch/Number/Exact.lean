import PatternDispatch.Number

/-!
Numbers by their mathematical value. Two numbers of any kinds are equal when their values are;
NaN equals nothing.
-/

namespace PatternDispatch

inductive Exact where
  | nan
  | infinity (negative : Bool)
  | rational (value : Rat)
deriving DecidableEq, Repr

namespace Exact

def equals : Exact → Exact → Bool
  | infinity a, infinity b => a == b
  | rational a, rational b => a == b
  | _, _ => false

end Exact

def Binary.exact {f : Format} : Binary f → Exact
  | .nan => .nan
  | .infinity negative => .infinity negative
  | .finite false rank => .rational (Binary.magnitude f rank)
  | .finite true rank => .rational (-Binary.magnitude f rank)

def Number.exact : Number → Exact
  | int value => .rational value
  | float value => value.exact
  | truth value => .rational (if value then 1 else 0)

/-- A decimal number of any size. -/
inductive DecimalNumber where
  /-- A NaN with a payload. One that signals refuses every comparison. -/
  | nan (signals negative : Bool) (payload : Nat)
  | infinity (negative : Bool)
  | finite (negative : Bool) (size : Decimal)
deriving DecidableEq, Repr

namespace DecimalNumber

/-- Whether a power of ten this large can still be cancelled to give `q`. -/
def withinReach (size : Decimal) (q : Rat) : Bool :=
  size.exponent.natAbs ≤ size.coefficient.log2 + q.num.natAbs.log2 + q.den.log2 + 1

def equals : DecimalNumber → Exact → Bool
  | infinity a, .infinity b => a == b
  | finite negative size, .rational q =>
    if size.coefficient = 0 then q == 0
    else withinReach size q && (if negative then -size.toRat else size.toRat) == q
  | _, _ => false

/-- Equality of values, which no power of ten is expanded for. -/
def sameValue : DecimalNumber → DecimalNumber → Bool
  | infinity a, infinity b => a == b
  | finite a m, finite b n =>
    if m.coefficient = 0 then n.coefficient == 0 else a == b && m.trimmed == n.trimmed
  | _, _ => false

end DecimalNumber

end PatternDispatch
