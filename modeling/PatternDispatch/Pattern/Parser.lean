import PatternDispatch.Cursor.Literal
import PatternDispatch.Pattern

/-!
Reading pattern text. Alternatives are tried in a fixed order and the first that finds something
decides; none of them moves the cursor without finding something. Nested patterns are read by a
reader for shorter buffers, which the length of the text bounds; there is no other limit on how deep
they are nested.
-/

namespace PatternDispatch.Pattern.Parser

/-- A reader of one construct. -/
abbrev Reader (α : Type) := Cursor → Reading α

/-- The first of several readers that finds something. -/
def firstOf {α : Type} : List (Reader α) → Reader α
  | [], c => .ok (none, c)
  | reader :: readers, c =>
    match reader c with
    | .ok (none, next) => firstOf readers next
    | found => found

def lexeme (token : Token) : Reader Text := fun c =>
  match c.lex? token with
  | none => .ok (none, c)
  | some (found, next) => .ok (some found.value, next)

def building {α : Type} (reader : Reader α) (make : α → Pattern) : Reader Pattern := fun c =>
  match reader c with
  | .error e => .error e
  | .ok (found, next) => .ok (found.map make, next)

def wildcard : Reader Pattern := fun c =>
  match c.acceptChar? '_' with
  | none => .ok (none, c)
  | some next => .ok (some .wildcard, next)

/-- The items of a list, read with commas between them until none is found; one comma may trail.
At most `limit` items are read, and at most one rest among them. -/
def commaSeparated (item : Reader Pattern) :
    Nat → Bool → Cursor → Except ParseError (List Pattern × Cursor)
  | 0, _, c => .ok ([], c)
  | limit + 1, hasRest, c =>
    match item c with
    | .error e => .error e
    | .ok (none, next) => .ok ([], next)
    | .ok (some first, next) =>
      if hasRest && first.isRest then
        .error (.malformed .multipleRests (next.rewindTo c.buffer))
      else
        match next.skipBlanks.acceptChar? ',' with
        | none => .ok ([first], next.skipBlanks)
        | some behind =>
          match commaSeparated item limit (hasRest || first.isRest) behind.skipBlanks with
          | .error e => .error e
          | .ok (others, last) => .ok (first :: others, last)

def items (item : Reader Pattern) (c : Cursor) : Except ParseError (List Pattern × Cursor) :=
  commaSeparated item c.buffer.length false c

/-- Something between brackets. -/
def bracketed {α : Type} (opening closing : Char)
    (inner : Cursor → Except ParseError (α × Cursor)) : Reader α := fun c =>
  match c.acceptChar? opening with
  | none => .ok (none, c)
  | some opened =>
    match inner opened.skipBlanks with
    | .error e => .error e
    | .ok (found, next) =>
      match next.skipBlanks.acceptChar? closing with
      | none => .error (.malformed (.expectedChar closing) next.skipBlanks)
      | some closed => .ok (some found, closed)

section Nested

variable (pattern : Reader Pattern)

/-- A name with dots behind it, or dots with a pattern directly behind them. -/
def rest : Reader Pattern := fun c =>
  match c.lex? .postfixRest with
  | some (name, next) => .ok (some (.rest (.identifier name.value)), next)
  | none =>
    match c.accept? Token.dots with
    | none => .ok (none, c)
    | some next =>
      match pattern next with
      | .error e => .error e
      | .ok (inner, last) => .ok (some (.rest (inner.getD .wildcard)), last)

def sequenceItems := items (firstOf [rest pattern, pattern])

def array : Reader Pattern :=
  building (bracketed '[' ']' (sequenceItems pattern)) .array

def key : Reader Text := firstOf [Cursor.string, lexeme .key]

/-- An object rest holds a name or nothing. -/
def fieldRest : Reader Pattern := fun c =>
  match rest pattern c with
  | .ok (some (.rest (.identifier name)), next) => .ok (some (.rest (.identifier name)), next)
  | .ok (some (.rest .wildcard), next) => .ok (some (.rest .wildcard), next)
  | .ok (some _, next) => .error (.malformed .expectedRestName (next.rewindTo c.buffer))
  | nothing => nothing

def keyed : Reader Pattern := fun c =>
  match key c with
  | .error e => .error e
  | .ok (none, next) => .ok (none, next)
  | .ok (some name, next) =>
    match next.skipBlanks.acceptChar? ':' with
    | none => .ok (some (.key name), next.skipBlanks)
    | some behind =>
      match pattern behind.skipBlanks with
      | .error e => .error e
      | .ok (none, last) => .error (.malformed .expectedPattern last)
      | .ok (some inner, last) => .ok (some (.keyValue name inner), last)

def fields := items (firstOf [fieldRest pattern, keyed pattern])

def object : Reader Pattern := building (bracketed '{' '}' (fields pattern)) .object

/-- A class name with keyed components, positional components or none. -/
def classPattern : Reader Pattern := fun c =>
  match c.lex? .className with
  | none => .ok (none, c)
  | some (name, next) =>
    firstOf
      [building (bracketed '{' '}' (fields pattern)) (.tagObject name.value),
        building (bracketed '(' ')' (sequenceItems pattern)) (.tagArray name.value),
        fun c => .ok (some (.tag name.value), c)] next

/-- An extractor name, with at most one pattern in parentheses. -/
def extractor : Reader Pattern := fun c =>
  match c.lex? .extractorName with
  | none => .ok (none, c)
  | some (name, next) =>
    match bracketed '(' ')' pattern next with
    | .error e => .error e
    | .ok (some (some inner), last) => .ok (some (.extractorOf name.value inner), last)
    | .ok (_, last) => .ok (some (.extractor name.value), last)

/-- A capture name, or a name bound to a structure. -/
def identifierOrBinder : Reader Pattern := fun c =>
  match c.lex? .identifier with
  | none => .ok (none, c)
  | some (name, next) =>
    match next.acceptChar? '@' with
    | none => .ok (some (.identifier name.value), next)
    | some behind =>
      match firstOf [classPattern pattern, array pattern, object pattern] behind with
      | .error e => .error e
      | .ok (none, last) => .error (.malformed .expectedStructure last)
      | .ok (some inner, last) => .ok (some (.binder name.value inner), last)

def patternStep : Reader Pattern :=
  firstOf
    [wildcard,
      building (lexeme .nullWord) fun _ => .null,
      building (lexeme .undefinedWord) fun _ => .undefined,
      building (lexeme .booleanWord) fun word => .boolean (word = Text.ofString "true"),
      building Cursor.number .number,
      building Cursor.string .string,
      classPattern pattern,
      extractor pattern,
      array pattern,
      object pattern,
      identifierOrBinder pattern]

end Nested

/-- A pattern of at most the given nesting depth. -/
def pattern : Nat → Reader Pattern
  | 0 => fun c => .ok (none, c)
  | depth + 1 => patternStep (pattern depth)

/-- Reads a whole text as an argument list. -/
def parse (text : Text) : Except ParseError Pattern :=
  let start := (Cursor.start text).skipBlanks
  match sequenceItems (pattern text.length) start with
  | .error e => .error e
  | .ok (found, next) =>
    let last := next.skipBlanks
    if last.atEnd then .ok (.argumentList found)
    else .error (.malformed .unexpectedCharacter last)

end PatternDispatch.Pattern.Parser
