import PatternDispatch.Cursor.ParseError

/-!
String and number literals at a cursor. Each reader answers nothing and leaves the cursor where it
was when no such literal begins there.
-/

namespace PatternDispatch

/-- What a reader answers: a result if there is one, and the cursor behind it. -/
abbrev Reading (α : Type) := Except ParseError (Option α × Cursor)

namespace Cursor

/-- The character that an escape letter stands for. -/
def escapeValue (c : CodePoint) : CodePoint :=
  if c = 'b'.toNat then 0x08
  else if c = 'f'.toNat then 0x0c
  else if c = 'n'.toNat then 0x0a
  else if c = 'r'.toNat then 0x0d
  else if c = 't'.toNat then 0x09
  else if c = 'v'.toNat then 0x0b
  else c

/-- What an escape of a given form denotes. -/
def escapeMeaning (token : Token) (lexeme : Lexeme) : Text :=
  match token with
  | .nulEscape => [0]
  | .hexEscape | .unicodeEscape => [Text.readHex lexeme.value]
  | .characterEscape => lexeme.value.map escapeValue
  | _ => lexeme.value

def lexEscape? (c : Cursor) : List Token → Option (Text × Cursor)
  | [] => none
  | token :: tokens =>
    match c.lex? token with
    | some (lexeme, next) => some (escapeMeaning token lexeme, next)
    | none => c.lexEscape? tokens

/-- One escape; the forms overlap and the first that fits decides. -/
def escape? (c : Cursor) : Option (Text × Cursor) :=
  c.lexEscape? [.nulEscape, .hexEscape, .unicodeEscape, .characterEscape, .anyEscape]

/-- The characters and escapes of a string body, for at most `limit` pieces. -/
def stringBody (plain : Token) : Nat → Cursor → Text × Cursor
  | 0, c => ([], c)
  | limit + 1, c =>
    match c.lex? plain with
    | some (lexeme, next) =>
      let (body, last) := stringBody plain limit next
      (lexeme.text ++ body, last)
    | none =>
      match c.escape? with
      | some (meaning, next) =>
        let (body, last) := stringBody plain limit next
        (meaning ++ body, last)
      | none => ([], c)

def quotedBy (quote : Char) (plain : Token) (c : Cursor) : Reading Text :=
  match c.acceptChar? quote with
  | none => .ok (none, c)
  | some opened =>
    let (body, last) := stringBody plain opened.buffer.length opened
    match last.acceptChar? quote with
    | none => .error (.malformed (.expectedChar quote) last)
    | some closed => .ok (some body, closed)

def string (c : Cursor) : Reading Text :=
  match c.quotedBy '"' .doubleQuoted with
  | .ok (none, next) => next.quotedBy '\'' .singleQuoted
  | found => found

/-- A point and the digits that must follow it. -/
def fraction (c : Cursor) : Reading Text :=
  match c.acceptChar? '.' with
  | none => .ok (none, c)
  | some next =>
    match next.lex? .digits with
    | none => .error (.malformed .expectedDigit next)
    | some (digits, last) => .ok (some digits.text, last)

/-- An exponent mark with its sign, and the digits that must follow it. -/
def exponent (c : Cursor) : Reading (Bool × Text) :=
  match c.lex? .exponentMark with
  | none => .ok (none, c)
  | some (mark, next) =>
    match next.lex? .digits with
    | none => .error (.malformed .expectedDigit next)
    | some (digits, last) => .ok (some (decide ('-'.toNat ∈ mark.text), digits.text), last)

/-- Whether a minus is there, and the place behind it. -/
def sign (c : Cursor) : Bool × Cursor :=
  match c.acceptChar? '-' with
  | none => (false, c)
  | some next => (true, next)

/-- The digits before a point, if any, and the place behind them. -/
def wholeDigits (c : Cursor) : Text × Cursor :=
  match c.lex? .integer with
  | none => ([], c)
  | some (lexeme, next) => (lexeme.text, next)

/-- The parts of a number from the end of its digits on. -/
def numeralBehind (c : Cursor) (negative : Bool) (whole : Text) (behind : Cursor) :
    Reading Numeral :=
  match behind.fraction with
  | .error e => .error e
  | .ok (fraction, afterFraction) =>
    if whole = [] ∧ fraction = none then
      if negative then .error (.malformed .expectedNumber afterFraction) else .ok (none, c)
    else
      match afterFraction.exponent with
      | .error e => .error e
      | .ok (exponent, last) => .ok (some ⟨negative, whole, fraction, exponent⟩, last)

/-- The parts of a number. Digits before the point may be missing if a fraction is there, and a
sign alone is an error. -/
def numeral (c : Cursor) : Reading Numeral :=
  c.numeralBehind c.sign.1 c.sign.2.wholeDigits.1 c.sign.2.wholeDigits.2

def number (c : Cursor) : Reading Number :=
  match c.numeral with
  | .error e => .error e
  | .ok (none, next) => .ok (none, next)
  | .ok (some numeral, next) =>
    match numeral.read with
    | .error digits => .error (.integerTooLong digits next)
    | .ok value => .ok (some value, next)

end Cursor

end PatternDispatch
