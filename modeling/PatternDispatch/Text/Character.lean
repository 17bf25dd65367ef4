import PatternDispatch.Text.WordTable

/-!
The character classes of the pattern language. Names and digits are ASCII; blanks and the word
characters that decide where a keyword ends range over all of Unicode.
-/

namespace PatternDispatch.Character

def isDigit (c : CodePoint) : Bool := '0'.toNat ≤ c && c ≤ '9'.toNat

def isLower (c : CodePoint) : Bool := 'a'.toNat ≤ c && c ≤ 'z'.toNat

def isUpper (c : CodePoint) : Bool := 'A'.toNat ≤ c && c ≤ 'Z'.toNat

def isHexDigit (c : CodePoint) : Bool :=
  isDigit c || ('a'.toNat ≤ c && c ≤ 'f'.toNat) || ('A'.toNat ≤ c && c ≤ 'F'.toNat)

/-- A character that may begin a key. -/
def isNameStart (c : CodePoint) : Bool :=
  c == '_'.toNat || c == '$'.toNat || isLower c || isUpper c

/-- A character that may continue any name. -/
def isNamePart (c : CodePoint) : Bool := isNameStart c || isDigit c

def isBlank (c : CodePoint) : Bool :=
  (9 ≤ c && c ≤ 13) || (28 ≤ c && c ≤ 32) || c == 0x85 || c == 0xa0 || c == 0x1680 ||
    (0x2000 ≤ c && c ≤ 0x200a) || c == 0x2028 || c == 0x2029 || c == 0x202f || c == 0x205f ||
    c == 0x3000

/-- Letters, digits and the underscore of every script; the dollar sign is no word character. -/
def isWord (c : CodePoint) : Bool :=
  if c < 128 then isLower c || isUpper c || isDigit c || c == '_'.toNat
  else wordRanges.any fun range => range.1 ≤ c && c ≤ range.2

end PatternDispatch.Character
