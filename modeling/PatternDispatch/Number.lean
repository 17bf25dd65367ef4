import PatternDispatch.Number.Decimal

/-!
Number literals: how they are read from their parts, and the one spelling in which each is
written. Integral numbers below `10 ^ 21` are written as integers, whatever their kind.
-/

namespace PatternDispatch

attribute [local instance (high)] instPowNat

inductive Number where
  | int (value : Int)
  | float (value : Binary64)
  /-- A truth value where a number stands, which only a pattern built by hand can hold. -/
  | truth (value : Bool)
deriving DecidableEq, Repr

/-- The parts of a number token. A token without fraction and exponent is an integer. -/
structure Numeral where
  negative : Bool
  whole : Text
  fraction : Option Text
  exponent : Option (Bool × Text)
deriving DecidableEq, Repr

namespace Numeral

/-- The longest integer token that is read, in digits. -/
def digitLimit : Nat := 4300

/-- Why an integer of too many digits is not read or written; on reading the digits are counted. -/
def limitMessage (digits : Option Nat) : Text :=
  let counted : Text := match digits with
    | some count =>
      Text.ofString ": value has " ++ Text.ofNat count ++ Text.ofString " digits"
    | none => []
  Text.ofString "Exceeds the limit (" ++ Text.ofNat digitLimit ++
    Text.ofString " digits) for integer string conversion" ++ counted ++
    Text.ofString "; use sys.set_int_max_str_digits() to increase the limit"

def magnitude (n : Numeral) : Decimal :=
  let fraction := n.fraction.getD []
  let power : Int := match n.exponent with
    | none => 0
    | some (negative, digits) =>
      if negative then -(Text.readDecimal digits : Int) else Text.readDecimal digits
  ⟨Text.readDecimal (n.whole ++ fraction), power - fraction.length⟩

/-- The number a token denotes; an integer token beyond the limit answers its digit count. -/
def read (n : Numeral) : Except Nat Number :=
  if n.fraction = none ∧ n.exponent = none then
    if digitLimit < n.whole.length then .error n.whole.length
    else
      let value : Int := Text.readDecimal n.whole
      .ok (.int (if n.negative then -value else value))
  else .ok (.float (n.magnitude.round .binary64 n.negative))

end Numeral

namespace Decimal

/-- All digits from the first place before the point, or from its left neighbour, to the last place
behind it. -/
def positionalSpelling (d : Decimal) : Text :=
  let digits := Text.ofNat d.coefficient
  let place : Int := digits.length + d.exponent
  if place ≤ 0 then Text.ofString "0." ++ List.replicate (-place).toNat '0'.toNat ++ digits
  else if 0 ≤ d.exponent then
    digits ++ List.replicate d.exponent.toNat '0'.toNat ++ Text.ofString ".0"
  else digits.take place.toNat ++ '.'.toNat :: digits.drop place.toNat

/-- The exponent of the first digit with its sign, in at least two digits. -/
def power (exponent : Int) : Text :=
  let digits := Text.ofNat exponent.natAbs
  'e'.toNat :: (if exponent < 0 then '-' else '+').toNat ::
    ((if digits.length = 1 then ['0'.toNat] else []) ++ digits)

def scientificSpelling (d : Decimal) : Text :=
  let digits := Text.ofNat d.coefficient
  digits.take 1 ++ (if digits.length = 1 then [] else '.'.toNat :: digits.drop 1) ++
    power (digits.length + d.exponent - 1)

/-- Positional from `10 ^ -4` up to `10 ^ 16`, and with an exponent beyond. -/
def spelling (d : Decimal) : Text :=
  let place : Int := d.digitCount + d.exponent
  if -4 < place ∧ place ≤ 16 then d.positionalSpelling else d.scientificSpelling

end Decimal

namespace Number

def signed (negative : Bool) (t : Text) : Text := if negative then '-'.toNat :: t else t

def floatSpelling : Binary64 → Text
  | .nan => Text.ofString "nan"
  | .infinity negative => signed negative (Text.ofString "1e999")
  | .finite negative rank =>
    let size := Binary.magnitude .binary64 rank
    if size.den = 1 ∧ size < 10 ^ (21 : Nat) then
      Text.ofInt (if negative then -size.num else size.num)
    else signed negative (Decimal.shortest .binary64 rank).spelling

def spelling : Number → Text
  | int value => Text.ofInt value
  | float value => floatSpelling value
  | truth value => Text.ofString (if value then "True" else "False")

end Number

end PatternDispatch
