import PatternDispatch.Text.PrintableTable

/-!
How a text is shown inside a message. Single quotes are preferred; double quotes serve a text
that holds single quotes only. Printable characters of every script stand as they are. Several
texts stand between brackets.
-/

namespace PatternDispatch.Text

def isPrintable (c : CodePoint) : Bool :=
  if c < 128 then 0x20 ≤ c && c < 0x7f
  else Character.printableRanges.any fun range => range.1 ≤ c && c ≤ range.2

def shown (quote c : CodePoint) : Text :=
  if c = quote ∨ c = '\\'.toNat then ['\\'.toNat, c]
  else if c = 0x09 then ofString "\\t"
  else if c = 0x0a then ofString "\\n"
  else if c = 0x0d then ofString "\\r"
  else if isPrintable c then [c]
  else if c ≤ 0xff then ofString "\\x" ++ hex 2 c
  else if c ≤ 0xffff then ofString "\\u" ++ hex 4 c
  else ofString "\\U" ++ hex 8 c

def displayed (t : Text) : Text :=
  let quote := if '\''.toNat ∈ t ∧ '"'.toNat ∉ t then '"'.toNat else '\''.toNat
  quote :: (t.flatMap (shown quote) ++ [quote])

/-- Texts between brackets. -/
def enclosed (opening closing : String) (items : List Text) : Text :=
  ofString opening ++ (ofString ", ").intercalate items ++ ofString closing

/-- Texts in parentheses; a comma follows one that is alone. -/
def tuple : List Text → Text
  | [item] => enclosed "(" ",)" [item]
  | items => enclosed "(" ")" items

end PatternDispatch.Text
