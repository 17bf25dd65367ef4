import PatternDispatch.Pattern.Parser
import PatternDispatch.Proofs.CursorSpans

/-!
The grammar of pattern text, said without an order of alternatives and without a reader. A form is
a derivation: it records every choice of the text but those that carry no meaning, which are the
blanks, the quotes and escapes of strings, and the side on which a named rest has its dots. The
tokens are those of the lexer; what they leave for the next token is part of their rule.
-/

namespace PatternDispatch.Grammar

open Character

inductive Form where
  | wildcard
  | null
  | undefined
  | boolean (value : Bool)
  | number (token : Text) (value : Number)
  | string (value : Text)
  | identifier (name : Text)
  | binder (name : Text) (inner : Form)
  /-- A comma may trail behind the items of any list. -/
  | array (items : List Form) (trailing : Bool)
  | object (items : List Form) (trailing : Bool)
  | tag (name : Text)
  | tagArray (name : Text) (items : List Form) (trailing : Bool)
  | tagObject (name : Text) (items : List Form) (trailing : Bool)
  | extractor (name : Text)
  /-- An extractor with nothing in its parentheses. -/
  | extractorEmpty (name : Text)
  | extractorOf (name : Text) (inner : Form)
  /-- A rest without a pattern. -/
  | dots
  | rest (inner : Form)
  | key (name : Text)
  | keyValue (name : Text) (inner : Form)

namespace Form

mutual

/-- The pattern that a form derives. -/
def tree : Form → Pattern
  | wildcard => .wildcard
  | null => .null
  | undefined => .undefined
  | boolean value => .boolean value
  | number _ value => .number value
  | string value => .string value
  | identifier name => .identifier name
  | binder name inner => .binder name inner.tree
  | array items _ => .array (trees items)
  | object items _ => .object (trees items)
  | tag name => .tag name
  | tagArray name items _ => .tagArray name (trees items)
  | tagObject name items _ => .tagObject name (trees items)
  | extractor name | extractorEmpty name => .extractor name
  | extractorOf name inner => .extractorOf name inner.tree
  | dots => .rest .wildcard
  | rest inner => .rest inner.tree
  | key name => .key name
  | keyValue name inner => .keyValue name inner.tree

def trees : List Form → List Pattern
  | [] => []
  | item :: items => item.tree :: trees items

end

def isRest : Form → Bool
  | dots | rest _ => true
  | _ => false

/-- Whether a name can be bound to what a form derives. -/
def isStructure : Form → Bool
  | array _ _ | object _ _ | tag _ | tagArray _ _ _ | tagObject _ _ _ => true
  | _ => false

/-- Whether a rest holds a name or nothing, which is all that the rest of an object can hold. -/
def holdsName : Form → Bool
  | dots | rest wildcard | rest (identifier _) => true
  | _ => false

end Form

/-- Any number of blanks, which may be fewer than there are. -/
def Blanks (c d : Cursor) : Prop := ∃ w, (∀ b ∈ w, isBlank b = true) ∧ c.Spans w d

/-- A whole word: no word character follows it. -/
def Word (w : Text) (c d : Cursor) : Prop :=
  c.Spans w d ∧ Token.startsWith isWord d.buffer = false

/-- A name of given first characters, with all the name characters there are. -/
def Name (isFirst : CodePoint → Bool) (name : Text) (c d : Cursor) : Prop :=
  c.Spans name d ∧ Token.IsName isFirst name ∧ Token.startsWith isNamePart d.buffer = false

/-- A capture name does not begin with a keyword that is a whole word. -/
def CaptureName (name : Text) (c d : Cursor) : Prop :=
  Name isLower name c d ∧ ∀ w ∈ Token.keywords, ∀ e, ¬Word w c e

/-- A key is a quoted text or a bare name. -/
def Key (name : Text) (c d : Cursor) : Prop :=
  c.string = .ok (some name, d) ∨ Name isNameStart name c d

/-- Where an item stands: in an array or argument list, or in an object. -/
inductive Place where
  | sequence
  | fields
deriving DecidableEq

/-- What a stretch of text can be. -/
inductive Part where
  | pattern (form : Form)
  | item (place : Place) (form : Form)
  | items (place : Place) (forms : List Form) (trailing : Bool)
  /-- Items between brackets. -/
  | enclosed (opening closing : Char) (place : Place) (forms : List Form) (trailing : Bool)

def AtMostOneRest (forms : List Form) : Prop := forms.countP Form.isRest ≤ 1

/-- The text between two places derives a part. -/
inductive Spells : Part → Cursor → Cursor → Prop where
  | wildcard {c d} : c.Spans (Text.ofString "_") d → Spells (.pattern .wildcard) c d
  | null {c d} : Word (Text.ofString "null") c d → Spells (.pattern .null) c d
  | undefined {c d} : Word (Text.ofString "undefined") c d → Spells (.pattern .undefined) c d
  | boolean {c d} (value : Bool) :
      Word (Text.ofString (if value then "true" else "false")) c d →
      Spells (.pattern (.boolean value)) c d
  | number {c d token value} :
      c.number = .ok (some value, d) → c.Spans token d →
      Spells (.pattern (.number token value)) c d
  | string {c d value} : c.string = .ok (some value, d) → Spells (.pattern (.string value)) c d
  | identifier {c d name} : CaptureName name c d → Spells (.pattern (.identifier name)) c d
  | binder {c a b d name inner} :
      CaptureName name c a → a.Spans (Text.ofString "@") b → inner.isStructure = true →
      Spells (.pattern inner) b d → Spells (.pattern (.binder name inner)) c d
  | array {c d items trailing} :
      Spells (.enclosed '[' ']' .sequence items trailing) c d →
      Spells (.pattern (.array items trailing)) c d
  | object {c d items trailing} :
      Spells (.enclosed '\x7b' '\x7d' .fields items trailing) c d →
      Spells (.pattern (.object items trailing)) c d
  | tag {c d name} : Name isUpper name c d → Spells (.pattern (.tag name)) c d
  | tagArray {c a d name items trailing} :
      Name isUpper name c a → Spells (.enclosed '(' ')' .sequence items trailing) a d →
      Spells (.pattern (.tagArray name items trailing)) c d
  | tagObject {c a d name items trailing} :
      Name isUpper name c a → Spells (.enclosed '\x7b' '\x7d' .fields items trailing) a d →
      Spells (.pattern (.tagObject name items trailing)) c d
  | extractor {c a d name} :
      c.Spans (Text.ofString "$") a → Name isNameStart name a d →
      Spells (.pattern (.extractor name)) c d
  | extractorEmpty {c a b e f d name} :
      c.Spans (Text.ofString "$") a → Name isNameStart name a b →
      b.Spans (Text.ofString "(") e → Blanks e f → f.Spans (Text.ofString ")") d →
      Spells (.pattern (.extractorEmpty name)) c d
  | extractorOf {c a b e f g h d name inner} :
      c.Spans (Text.ofString "$") a → Name isNameStart name a b →
      b.Spans (Text.ofString "(") e → Blanks e f → Spells (.pattern inner) f g →
      Blanks g h → h.Spans (Text.ofString ")") d →
      Spells (.pattern (.extractorOf name inner)) c d
  /-- An item of a sequence is a pattern or a rest. -/
  | element {c d form} :
      Spells (.pattern form) c d → Spells (.item .sequence form) c d
  | dots {c d place} : c.Spans Token.dots d → Spells (.item place .dots) c d
  | rest {c a d place inner} :
      c.Spans Token.dots a → Spells (.pattern inner) a d →
      (place = .fields → (Form.rest inner).holdsName = true) → Spells (.item place (.rest inner)) c d
  /-- A named rest may have its dots behind the name. -/
  | namedRest {c a d place name} :
      CaptureName name c a → a.Spans Token.dots d →
      Spells (.item place (.rest (.identifier name))) c d
  | key {c d name} : Key name c d → Spells (.item .fields (.key name)) c d
  | keyValue {c a b e f d name inner} :
      Key name c a → Blanks a b → b.Spans (Text.ofString ":") e → Blanks e f →
      Spells (.pattern inner) f d → Spells (.item .fields (.keyValue name inner)) c d
  | none {c place} : Spells (.items place [] false) c c
  | one {c d place form} : Spells (.item place form) c d → Spells (.items place [form] false) c d
  | trailing {c a b d place form} :
      Spells (.item place form) c a → Blanks a b → b.Spans (Text.ofString ",") d →
      Spells (.items place [form] true) c d
  | more {c a b e f d place form next forms trailing} :
      Spells (.item place form) c a → Blanks a b → b.Spans (Text.ofString ",") e → Blanks e f →
      Spells (.items place (next :: forms) trailing) f d →
      Spells (.items place (form :: next :: forms) trailing) c d
  | enclosed {c a b e f d opening closing place forms trailing} :
      c.Spans [opening.toNat] a → Blanks a b → Spells (.items place forms trailing) b e →
      Blanks e f → f.Spans [closing.toNat] d → AtMostOneRest forms →
      Spells (.enclosed opening closing place forms trailing) c d

/-- A whole text derives an argument list. -/
def SpellsText (forms : List Form) (trailing : Bool) (text : Text) : Prop :=
  ∃ a b d, Blanks (Cursor.start text) a ∧ Spells (.items .sequence forms trailing) a b ∧
    Blanks b d ∧ d.buffer = [] ∧ AtMostOneRest forms

def Derives (text : Text) (tree : Pattern) : Prop :=
  ∃ forms trailing, SpellsText forms trailing text ∧ tree = .argumentList (Form.trees forms)

end PatternDispatch.Grammar
