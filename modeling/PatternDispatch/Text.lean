/-!
Text as a list of code points. A lone surrogate is a member like any other, so a text need not
be encodable, and all lengths, positions and columns count code points.
-/

namespace PatternDispatch

abbrev CodePoint := Nat

abbrev Text := List CodePoint

namespace Text

def ofString (s : String) : Text := s.toList.map Char.toNat

def spaces (count : Nat) : Text := List.replicate count ' '.toNat

/-- The decimal digits of a number, most significant first. -/
def decimalDigits (n : Nat) : List Nat :=
  if n < 10 then [n] else decimalDigits (n / 10) ++ [n % 10]
termination_by n

def ofDigits (digits : List Nat) : Text := digits.map ('0'.toNat + ·)

def ofNat (n : Nat) : Text := ofDigits (decimalDigits n)

def ofInt (n : Int) : Text :=
  if n < 0 then '-'.toNat :: ofNat n.natAbs else ofNat n.natAbs

/-- The number that a text of decimal digits denotes; no digits denote zero. -/
def readDecimal (t : Text) : Nat := t.foldl (fun n c => 10 * n + (c - '0'.toNat)) 0

def hexDigit (d : Nat) : CodePoint :=
  if d < 10 then '0'.toNat + d else 'a'.toNat + (d - 10)

/-- The lowest `width` hexadecimal digits of a number, in lower case. -/
def hex : Nat → Nat → Text
  | 0, _ => []
  | width + 1, n => hex width (n / 16) ++ [hexDigit (n % 16)]

def hexValue (c : CodePoint) : Nat :=
  if c < 'A'.toNat then c - '0'.toNat
  else if c < 'a'.toNat then c - 'A'.toNat + 10
  else c - 'a'.toNat + 10

def readHex (t : Text) : Nat := t.foldl (fun n c => 16 * n + hexValue c) 0

end Text

end PatternDispatch
