import PatternDispatch.Cursor
import PatternDispatch.Number

/-!
Why reading pattern text stops, and where. Malformed text is reported with the source and a caret
under the column; an integer token beyond the digit limit is a failure of its own.
-/

namespace PatternDispatch

inductive Reason where
  | unexpectedCharacter
  | expectedDigit
  | expectedNumber
  | expectedPattern
  | expectedRestName
  | expectedStructure
  | multipleRests
  | expectedChar (char : Char)
  | other (text : Text)
deriving DecidableEq, Repr

def Reason.text : Reason → Text
  | unexpectedCharacter => Text.ofString "Unexpected character"
  | expectedDigit => Text.ofString "Expected digit"
  | expectedNumber => Text.ofString "Expected number"
  | expectedPattern => Text.ofString "Expected pattern"
  | expectedRestName => Text.ofString "Expected identifier after ..."
  | expectedStructure => Text.ofString "Expected class, array or object pattern"
  | multipleRests => Text.ofString "Multiple ...'s not allowed"
  | expectedChar char => Text.ofString "Expected " ++ [char.toNat]
  | other text => text

inductive ParseError where
  | malformed (reason : Reason) (cursor : Cursor)
  | integerTooLong (digits : Nat) (cursor : Cursor)
deriving DecidableEq, Repr

namespace Cursor

/-- The column of the next character, counted from one. -/
def column (c : Cursor) : Nat := c.position + 1

def consumed (c : Cursor) : Nat := c.source.length - c.buffer.length

/-- The reason and its column, the source, and a caret under the first unread character. -/
def report (c : Cursor) (reason : Text) : Text :=
  reason ++ Text.ofString " at column " ++ Text.ofNat c.column ++ '\n'.toNat :: (c.source ++
    '\n'.toNat :: (Text.spaces c.consumed ++ ['^'.toNat]))

end Cursor

namespace ParseError

/-- Where the cursor stood. -/
def cursor : ParseError → Cursor
  | malformed _ cursor | integerTooLong _ cursor => cursor

def message : ParseError → Text
  | malformed reason cursor => cursor.report reason.text
  | integerTooLong digits _ => Numeral.limitMessage (some digits)

end ParseError

end PatternDispatch
