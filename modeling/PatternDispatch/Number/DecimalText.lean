import PatternDispatch.Number.Exact
import PatternDispatch.Number.IntegerText

/-!
Decimal numbers in writing. A number keeps its exponent. It is written in scientific notation if
zeros would have to be added at its end, or if its first digit stands beyond the sixth place behind
the point, and positionally otherwise.
-/

namespace PatternDispatch

namespace Decimal

/-- The digits with a point before the last `places` of them, padded so that one stands before the
point. -/
def positional (digits : Text) (places : Nat) : Text :=
  if places = 0 then digits
  else
    let padded := List.replicate (places + 1 - digits.length) '0'.toNat ++ digits
    padded.take (padded.length - places) ++
      '.'.toNat :: padded.drop (padded.length - places)

/-- One digit, the others behind a point, and the exponent with its sign. -/
def scientific (digits : Text) (exponent : Int) : Text :=
  digits.take 1 ++ (if digits.length = 1 then [] else '.'.toNat :: digits.drop 1) ++
    'E'.toNat :: (if exponent < 0 then '-' else '+').toNat :: Text.ofNat exponent.natAbs

def text (d : Decimal) : Text :=
  let digits := Text.ofNat d.coefficient
  let leading : Int := d.exponent + digits.length - 1
  if d.exponent ≤ 0 ∧ -6 ≤ leading then positional digits (-d.exponent).toNat
  else scientific digits leading

end Decimal

namespace DecimalNumber

/-- The text of a number without its sign; a payload of zero is left out. -/
def unsigned : DecimalNumber → Text
  | nan signals _ payload =>
    Text.ofString (if signals then "sNaN" else "NaN") ++
      if payload = 0 then [] else Text.ofNat payload
  | infinity _ => Text.ofString "Infinity"
  | finite _ size => size.text

def isNegative : DecimalNumber → Bool
  | nan _ negative _ | infinity negative | finite negative _ => negative

def text (d : DecimalNumber) : Text :=
  if d.isNegative then '-'.toNat :: d.unsigned else d.unsigned

/-- Digits, a fraction and an exponent, each of the last two if it is there. -/
def readSize (t : Text) : Decimal :=
  let isDigit (c : CodePoint) : Bool := '0'.toNat ≤ c && c ≤ '9'.toNat
  let whole := t.takeWhile isDigit
  let behind := t.dropWhile isDigit
  let fraction := if behind.head? = some '.'.toNat then behind.tail.takeWhile isDigit else []
  let mark := if behind.head? = some '.'.toNat then behind.tail.dropWhile isDigit else behind
  let exponent : Int :=
    if mark.tail.head? = some '-'.toNat then -(Text.readDecimal mark.tail.tail : Int)
    else if mark.tail.head? = some '+'.toNat then Text.readDecimal mark.tail.tail
    else Text.readDecimal mark.tail
  ⟨Text.readDecimal (whole ++ fraction), exponent - fraction.length⟩

/-- What stands behind a word at the start of a text, whose letters may be of either case. -/
def behind? (word : String) (t : Text) : Option Text :=
  let lower (c : CodePoint) : CodePoint := if 'A'.toNat ≤ c && c ≤ 'Z'.toNat then c + 32 else c
  if (t.take word.length).map lower = Text.ofString word then some (t.drop word.length) else none

/-- Reads a decimal number that is written as `text` writes it, or in another of its spellings:
blanks around it and underscores do not count, and digits may be of any script. -/
def read (t : Text) : DecimalNumber :=
  let t := ((t.trimmed Character.isBlank).map Character.plainDigit).filter (· ≠ '_'.toNat)
  let negative := t.head? == some '-'.toNat
  let size := if negative || t.head? == some '+'.toNat then t.tail else t
  match behind? "nan" size, behind? "snan" size, behind? "inf" size with
  | some payload, _, _ => nan false negative (Text.readDecimal payload)
  | _, some payload, _ => nan true negative (Text.readDecimal payload)
  | _, _, some _ => infinity negative
  | _, _, _ => finite negative (readSize size)

end DecimalNumber

end PatternDispatch
