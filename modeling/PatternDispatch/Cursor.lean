import PatternDispatch.Cursor.Token

/-!
A cursor over pattern text: the unread buffer and the number of characters read so far. Looking
at a token leaves the cursor alone; accepting one moves past it.
-/

namespace PatternDispatch

structure Cursor where
  source : Text
  buffer : Text
  position : Nat
deriving DecidableEq, Repr

namespace Cursor

def start (source : Text) : Cursor := ⟨source, source, 0⟩

def atEnd (c : Cursor) : Bool := c.buffer.isEmpty

/-- Moves past at most `count` characters. -/
def advance (c : Cursor) (count : Nat) : Cursor :=
  { c with
    buffer := c.buffer.drop count
    position := c.position + min count c.buffer.length }

/-- Takes characters off the front; a negative length leaves that many at the end. -/
def take (c : Cursor) (length : Int) : Text × Cursor :=
  let count := if length < 0 then c.buffer.length - length.natAbs else length.toNat
  (c.buffer.take count, c.advance count)

def startsWith (c : Cursor) (literal : Text) : Bool := literal.isPrefixOf c.buffer

def accept? (c : Cursor) (literal : Text) : Option Cursor :=
  if c.startsWith literal then some (c.advance literal.length) else none

/-- Moves past one given character. -/
def acceptChar? (c : Cursor) (char : Char) : Option Cursor := c.accept? [char.toNat]

def peek? (c : Cursor) (token : Token) : Option Lexeme := token.match? c.buffer

def lex? (c : Cursor) (token : Token) : Option (Lexeme × Cursor) :=
  (c.peek? token).map fun lexeme => (lexeme, c.advance lexeme.text.length)

def skipBlanks (c : Cursor) : Cursor :=
  match c.lex? .blanks with
  | none => c
  | some (_, next) => next

/-- Puts text back in front of the buffer; the position never falls below zero. -/
def put (c : Cursor) (text : Text) : Cursor :=
  { c with buffer := text ++ c.buffer, position := c.position - text.length }

/-- The text read between an earlier buffer and this cursor is put back. -/
def rewindTo (c : Cursor) (earlier : Text) : Cursor :=
  c.put (earlier.take (earlier.length - c.buffer.length))

end Cursor

end PatternDispatch
