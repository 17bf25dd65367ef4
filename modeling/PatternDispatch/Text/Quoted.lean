import PatternDispatch.Text

/-!
The canonical spelling of a string literal: double quotes, a short escape where one exists, and
hexadecimal escapes for the other controls and for everything from U+0080 to U+FFFF. No quoted
text therefore holds a raw newline or a lone surrogate.
-/

namespace PatternDispatch.Text

def escaped (c : CodePoint) : Text :=
  if c = '\\'.toNat then ofString "\\\\"
  else if c = '"'.toNat then ofString "\\\""
  else if c = 0x08 then ofString "\\b"
  else if c = 0x09 then ofString "\\t"
  else if c = 0x0a then ofString "\\n"
  else if c = 0x0c then ofString "\\f"
  else if c = 0x0d then ofString "\\r"
  else if c < 0x20 ∨ (0x80 ≤ c ∧ c ≤ 0xff) then ofString "\\x" ++ hex 2 c
  else if 0x100 ≤ c ∧ c ≤ 0xffff then ofString "\\u" ++ hex 4 c
  else [c]

def quoted (t : Text) : Text := '"'.toNat :: (t.flatMap escaped ++ ['"'.toNat])

end PatternDispatch.Text
