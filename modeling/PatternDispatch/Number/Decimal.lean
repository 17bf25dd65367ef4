import PatternDispatch.Text
import PatternDispatch.Number.Binary

/-!
Decimal numbers of unbounded size, their nearest binary numbers, and the shortest decimal that
reads back as a given binary number.
-/

namespace PatternDispatch

attribute [local instance (high)] instPowNat

/-- The magnitude `coefficient · 10 ^ exponent`. -/
structure Decimal where
  coefficient : Nat
  exponent : Int
deriving DecidableEq, Repr

namespace Decimal

def toRat (d : Decimal) : Rat := scaled 10 d.coefficient d.exponent

def digitCount (d : Decimal) : Nat := (Text.decimalDigits d.coefficient).length

/-- A power of ten this far out leaves the finite range of the format on either side. -/
def reach (f : Format) : Nat := 2 ^ f.exponentBits + f.fractionBits

/-- The nearest binary number. Magnitudes far beyond the range are settled by their place alone. -/
def round (f : Format) (negative : Bool) (d : Decimal) : Binary f :=
  if d.coefficient = 0 then Binary.round f negative 0
  else if (reach f : Int) < d.exponent then .infinity negative
  else if d.digitCount + d.exponent < -(reach f : Int) then Binary.round f negative 0
  else Binary.round f negative d.toRat

/-- The same number with no zero at the end of its coefficient. -/
def trimmed (d : Decimal) : Decimal :=
  if h : d.coefficient ≠ 0 ∧ d.coefficient % 10 = 0 then
    trimmed ⟨d.coefficient / 10, d.exponent + 1⟩
  else d
termination_by d.coefficient
decreasing_by omega

/-- The least `k` with `q < 10 ^ k`, for a positive `q`. -/
def leadingPlace (q : Rat) : Int :=
  let num := q.num.natAbs
  if q.den ≤ num then (Text.decimalDigits (num / q.den)).length
  else 1 - (Text.decimalDigits ((q.den - 1) / num)).length

/-- The two neighbours of `q` among the decimals of `count` digits, the nearer one first. -/
def neighbours (q : Rat) (count : Nat) : List Decimal :=
  let place := leadingPlace q - count
  let num := q.num.natAbs * 10 ^ (-place).toNat
  let den := q.den * 10 ^ place.toNat
  let below : Decimal := ⟨num / den, place⟩
  let above : Decimal := ⟨num / den + 1, place⟩
  if Binary.nearestQuotient num den = num / den then [below.trimmed, above.trimmed]
  else [above.trimmed, below.trimmed]

/-- A magnitude whose denominator is a power of two, written out in full. -/
def ofDyadic (q : Rat) : Decimal :=
  ⟨q.num.natAbs * 5 ^ q.den.log2, -(q.den.log2 : Int)⟩

/-- The decimal of fewest digits that reads back as the magnitude of this rank, and of those the
nearest; seventeen digits always suffice. -/
def shortest (f : Format) (rank : Fin f.magnitudes) : Decimal :=
  let q := Binary.magnitude f rank
  let candidates := (List.range 17).flatMap fun count => neighbours q (count + 1)
  (candidates.find? fun d => d.round f false = .finite false rank).getD (ofDyadic q)

end Decimal

end PatternDispatch
