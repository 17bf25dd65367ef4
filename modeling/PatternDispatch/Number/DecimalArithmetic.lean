import PatternDispatch.Number.Exact

/-!
Decimal arithmetic of limited precision. A result is rounded half to even to the digits that the
precision keeps; near zero it loses digits at its end, and beyond the greatest number there is
none. No power of ten between two summands far apart is expanded.
-/

namespace PatternDispatch

attribute [local instance (high)] instPowNat

/-- Why arithmetic has no result. -/
inductive ArithmeticError where
  /-- A number lies outside the range of the type it is brought to. -/
  | outOfRange
  /-- A decimal result exceeds every decimal number. -/
  | overflow
  | invalidOperation
deriving DecidableEq, Repr

namespace Decimal

/-- The number of digits that a result keeps. -/
def precision : Nat := 28

/-- The greatest exponent that the first digit of a result has. -/
def highest : Int := 999999

/-- The least exponent that the last digit of a result has. -/
def lowest : Int := -999999 - (precision - 1)

/-- The number with no digit behind a place; a half goes to the even neighbour. -/
def roundedAt (d : Decimal) (place : Int) : Decimal :=
  let surplus := (place - d.exponent).toNat
  if surplus = 0 then d
  else if d.digitCount < surplus then ⟨0, place⟩
  else
    let coefficient := Binary.nearestQuotient d.coefficient (10 ^ surplus)
    if coefficient = 10 ^ precision then ⟨10 ^ (precision - 1), place + 1⟩ else ⟨coefficient, place⟩

/-- The number as a result, unless it is too great. -/
def result? (d : Decimal) : Option Decimal :=
  if d.coefficient = 0 then some ⟨0, max lowest (min highest d.exponent)⟩
  else
    let kept := d.roundedAt (max lowest (d.digitCount + d.exponent - precision))
    if highest < kept.digitCount + kept.exponent - 1 then none else some kept

/-- The coefficient that the number has at a lesser exponent. -/
def coefficientAt (d : Decimal) (exponent : Int) : Nat :=
  if d.coefficient = 0 then 0 else d.coefficient * 10 ^ (d.exponent - exponent).toNat

/-- A place behind every digit of the number and every digit that a sum with it keeps. -/
def horizon (d : Decimal) : Int := d.exponent + min (-1) ((d.digitCount : Int) - precision - 2)

/-- A summand as it counts beside a greater one: of what is wholly behind the horizon, no more than
its being there can be told from the rounded sum. -/
def beside (d other : Decimal) : Decimal :=
  if other.coefficient ≠ 0 ∧ d.digitCount + d.exponent - 1 < other.horizon then
    ⟨min 1 d.coefficient, other.horizon⟩
  else d

end Decimal

namespace DecimalNumber

def ofInt (n : Int) : DecimalNumber := finite (decide (n < 0)) ⟨n.natAbs, 0⟩

/-- A finite number as a result. -/
def result (negative : Bool) (size : Decimal) : Except ArithmeticError DecimalNumber :=
  match size.result? with
  | some size => .ok (finite negative size)
  | none => .error .overflow

/-- What arithmetic answers for a NaN: the last digits of the payload are kept. -/
def propagated (negative : Bool) (payload : Nat) : DecimalNumber :=
  nan false negative (payload % 10 ^ Decimal.precision)

/-- The sum of two numbers of which the first has the greater exponent. A sum of zero is negative
only if both numbers are. -/
def addDescending (a : Bool) (m : Decimal) (b : Bool) (n : Decimal) :
    Except ArithmeticError DecimalNumber :=
  let small := n.beside m
  let signed (negative : Bool) (size : Nat) : Int := if negative then -size else size
  let sum := signed a (m.coefficientAt small.exponent) + signed b small.coefficient
  result (if sum = 0 then a && b else decide (sum < 0)) ⟨sum.natAbs, small.exponent⟩

/-- The sum; no number that signals has one, nor have two opposite infinities. -/
def add : DecimalNumber → DecimalNumber → Except ArithmeticError DecimalNumber
  | nan true _ _, _ | _, nan true _ _ => .error .invalidOperation
  | nan false a m, _ | _, nan false a m => .ok (propagated a m)
  | infinity a, infinity b => if a = b then .ok (infinity a) else .error .invalidOperation
  | infinity a, _ | _, infinity a => .ok (infinity a)
  | finite a m, finite b n =>
    if m.exponent < n.exponent then addDescending b n a m else addDescending a m b n

def magnitude : DecimalNumber → Except ArithmeticError DecimalNumber
  | nan true _ _ => .error .invalidOperation
  | nan false negative payload => .ok (propagated negative payload)
  | infinity _ => .ok (infinity false)
  | finite _ size => result false size

end DecimalNumber

end PatternDispatch
