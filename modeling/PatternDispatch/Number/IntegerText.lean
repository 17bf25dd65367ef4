import PatternDispatch.Number
import PatternDispatch.Text.Character
import PatternDispatch.Text.DigitTable

/-!
Numerals in free text. Blanks around a numeral do not count, digits of every script are taken for
digits, and an underscore may stand between two digits.
-/

namespace PatternDispatch

namespace Character

/-- A blank that may stand around a numeral; the separators among the controls may not. -/
def isMargin (c : CodePoint) : Bool := isBlank c && !(28 ≤ c && c ≤ 31)

/-- The plain digit that a digit of any script stands for; any other character is itself. -/
def plainDigit (c : CodePoint) : CodePoint :=
  match digitZeros.find? fun first => first ≤ c && c ≤ first + 9 with
  | some first => '0'.toNat + (c - first)
  | none => c

/-- The value of a digit or, counted on from the digits, of a letter. -/
def digitValue? (c : CodePoint) : Option Nat :=
  if isDigit c then some (c - '0'.toNat)
  else if isLower c then some (c - 'a'.toNat + 10)
  else if isUpper c then some (c - 'A'.toNat + 10)
  else none

def isDigitOf (radix : Nat) (c : CodePoint) : Bool := (digitValue? c).any (· < radix)

end Character

namespace Text

/-- The text without blanks around it. -/
def trimmed (isBlank : CodePoint → Bool) (t : Text) : Text :=
  ((t.dropWhile isBlank).reverse.dropWhile isBlank).reverse

/-- The text without blanks around it and with plain digits. -/
def plainNumeral (t : Text) : Text := (t.trimmed Character.isMargin).map Character.plainDigit

def isSign (c : CodePoint) : Bool := c == '-'.toNat || c == '+'.toNat

def withoutSign (t : Text) : Text := if t.head?.any isSign then t.tail else t

/-- The text without its underscores if each of them stands between two digits; `previous` is the
character in front of the text. -/
def ungrouped? (isDigit : CodePoint → Bool) (previous : CodePoint) : Text → Option Text
  | [] => some []
  | c :: rest =>
    if c = '_'.toNat then
      if isDigit previous && rest.head?.any isDigit then ungrouped? isDigit c rest else none
    else (ungrouped? isDigit c rest).map (c :: ·)

/-- Whether a text without a sign is a decimal number, with a fraction and an exponent or not. -/
def isDecimal (t : Text) : Bool :=
  let isMark (c : CodePoint) : Bool := c == 'e'.toNat || c == 'E'.toNat
  let digits := (t.takeWhile (!isMark ·)).erase '.'.toNat
  let exponent := t.dropWhile (!isMark ·)
  let power := withoutSign exponent.tail
  !digits.isEmpty && digits.all Character.isDigit &&
    (exponent.isEmpty || (!power.isEmpty && power.all Character.isDigit))

/-- The letter that marks numerals of a radix. -/
def radixMark : Nat → Option Char
  | 2 => some 'b'
  | 8 => some 'o'
  | 16 => some 'x'
  | _ => none

/-- Whether a zero and the letter of the radix begin the text. -/
def isMarked (radix : Nat) (t : Text) : Bool :=
  match t, radixMark radix with
  | digit :: letter :: _, some mark =>
    digit == '0'.toNat && (letter == mark.toNat || letter + 32 == mark.toNat)
  | _, _ => false

/-- Why a text is no integer numeral. -/
inductive NumeralFault where
  | malformed
  | tooLong (digits : Nat)

/-- The integer that a numeral of a radix up to 36 denotes. With a radix of zero the mark of the
numeral decides, and a numeral without a mark has no zero in front of other digits. Only for a
radix that is a power of two there is no limit to the digits. -/
def readInteger (radix : Nat) (t : Text) : Except NumeralFault Int :=
  let body := plainNumeral t
  let size := withoutSign body
  let marked := [16, 8, 2].find? (isMarked · size)
  let base := if radix = 0 then marked.getD 10 else radix
  let digits :=
    if isMarked base size then
      if size[2]? = some '_'.toNat then size.drop 3 else size.drop 2
    else size
  let isPart (c : CodePoint) : Bool := Character.isDigitOf base c || c == '_'.toNat
  match ungrouped? (Character.isDigitOf base) 0 (digits.takeWhile isPart) with
  | none | some [] => .error .malformed
  | some run =>
    let value : Nat := run.foldl (fun n c => base * n + (Character.digitValue? c).getD 0) 0
    if Numeral.digitLimit < run.length ∧ base ∉ [2, 4, 8, 16, 32] then .error (.tooLong run.length)
    else if digits.any (!isPart ·) then .error .malformed
    else if radix = 0 ∧ marked = none ∧ digits.head? = some '0'.toNat ∧ value ≠ 0 then
      .error .malformed
    else .ok (if body.head? = some '-'.toNat then -value else value)

end Text

end PatternDispatch
