import PatternDispatch.Text.Character

/-!
The tokens of pattern text. Each rule looks at the front of a text and answers the longest lexeme
there, with the part of it that carries the meaning where that is not the whole.
-/

namespace PatternDispatch

structure Lexeme where
  text : Text
  group : Option Text
deriving DecidableEq, Repr

/-- The part that carries the meaning. -/
def Lexeme.value (l : Lexeme) : Text := l.group.getD l.text

inductive Token where
  | undefinedWord
  | nullWord
  | booleanWord
  | identifier
  | key
  | className
  | extractorName
  | blanks
  | doubleQuoted
  | singleQuoted
  | nulEscape
  | hexEscape
  | unicodeEscape
  | characterEscape
  | anyEscape
  | integer
  | digits
  | exponentMark
  | postfixRest
deriving DecidableEq, Repr

namespace Token

open Character

def startsWith (isMember : CodePoint → Bool) : Text → Bool
  | [] => false
  | c :: _ => isMember c

/-- A whole word at the front: no word character follows it. -/
def word (w t : Text) : Bool := w.isPrefixOf t && !startsWith isWord (t.drop w.length)

def keywords : List Text := ["null", "undefined", "true", "false"].map Text.ofString

/-- A nonempty run of characters of one class. -/
def run (isMember : CodePoint → Bool) (t : Text) : Option Text :=
  match t.takeWhile isMember with
  | [] => none
  | c :: cs => some (c :: cs)

/-- A name: one first character, then any number of name characters. -/
def name (isFirst : CodePoint → Bool) : Text → Option Text
  | [] => none
  | c :: cs => if isFirst c then some (c :: cs.takeWhile isNamePart) else none

def whole (t : Text) : Lexeme := ⟨t, none⟩

/-- A backslash and a letter, then exactly `count` hexadecimal digits. -/
def hexRun (letter : Char) (count : Nat) (t : Text) : Option Lexeme :=
  match t with
  | first :: second :: cs =>
    let digits := cs.take count
    if first = '\\'.toNat ∧ second = letter.toNat ∧ digits.length = count ∧
        digits.all isHexDigit = true then
      some ⟨first :: second :: digits, some digits⟩
    else none
  | _ => none

/-- A backslash and one character that passes the test. -/
def escape (isEscaped : CodePoint → Bool) : Text → Option Lexeme
  | first :: c :: _ =>
    if first = '\\'.toNat ∧ isEscaped c = true then some ⟨[first, c], some [c]⟩ else none
  | _ => none

def isNewline (c : CodePoint) : Bool := c == '\n'.toNat

/-- Quotes, the backslash, and the letters that stand for a control character. -/
def isEscapeLetter (c : CodePoint) : Bool := c ∈ Text.ofString "'\"\\bfnrtv"

def dots : Text := Text.ofString "..."

def match? : Token → Text → Option Lexeme
  | undefinedWord, t =>
    let w := Text.ofString "undefined"
    if word w t then some (whole w) else none
  | nullWord, t =>
    let w := Text.ofString "null"
    if word w t then some (whole w) else none
  | booleanWord, t =>
    let yes := Text.ofString "true"
    let no := Text.ofString "false"
    if word yes t then some ⟨yes, some yes⟩
    else if word no t then some ⟨no, some no⟩
    else none
  | identifier, t => (name isLower t).map whole
  | key, t => (name isNameStart t).map whole
  | className, t => (name isUpper t).map whole
  | extractorName, t =>
    match t with
    | [] => none
    | c :: cs =>
      if c = '$'.toNat then (name isNameStart cs).map fun n => ⟨c :: n, some n⟩ else none
  | blanks, t => (run isBlank t).map whole
  | doubleQuoted, t =>
    (run (fun c => !(c == '"'.toNat || c == '\\'.toNat || isNewline c)) t).map whole
  | singleQuoted, t =>
    (run (fun c => !(c == '\''.toNat || c == '\\'.toNat || isNewline c)) t).map whole
  | nulEscape, t =>
    match t with
    | first :: second :: cs =>
      if first = '\\'.toNat ∧ second = '0'.toNat ∧ startsWith isDigit cs = false then
        some (whole [first, second])
      else none
    | _ => none
  | hexEscape, t => hexRun 'x' 2 t
  | unicodeEscape, t => hexRun 'u' 4 t
  | characterEscape, t => escape isEscapeLetter t
  | anyEscape, t => escape (fun c => !isNewline c) t
  | integer, t =>
    match t with
    | [] => none
    | c :: cs =>
      if c = '0'.toNat then some (whole [c])
      else if isDigit c then some (whole (c :: cs.takeWhile isDigit))
      else none
  | digits, t => (run isDigit t).map whole
  | exponentMark, t =>
    match t with
    | [] => none
    | c :: cs =>
      if c = 'e'.toNat ∨ c = 'E'.toNat then
        match cs with
        | [] => some (whole [c])
        | sign :: _ =>
          if sign = '+'.toNat ∨ sign = '-'.toNat then some (whole [c, sign]) else some (whole [c])
      else none
  | postfixRest, t =>
    if keywords.any (word · t) then none
    else match name isLower t with
      | none => none
      | some n =>
        if dots.isPrefixOf (t.drop n.length) then some ⟨n ++ dots, some n⟩ else none

end Token

end PatternDispatch
