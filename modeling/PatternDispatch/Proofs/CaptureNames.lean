import PatternDispatch.Proofs.CanonicalRoundTrip
import PatternDispatch.Proofs.ReadingFailures

/-!
Which names can be given to a capture. The dollar sign goes on with a name but not with a word, so a
keyword with a dollar sign behind it is read as the literal, and the rest of the name is left. Every
other name that is no keyword is a capture name in each place where one can stand.
-/

namespace PatternDispatch

open Character Grammar

/-- The one character that goes on with a name but not with a word. -/
theorem Character.eq_dollar {b : CodePoint} (part : isNamePart b = true)
    (noWord : isWord b = false) : b = '$'.toNat := by
  simp only [isNamePart, isNameStart, isLower, isUpper, isDigit, Bool.or_eq_true, Bool.and_eq_true,
    decide_eq_true_eq, beq_iff_eq, Char.reduceToNat] at part
  have ascii : b < 128 := by
    unfold CodePoint at *
    omega
  simp only [isWord, if_pos ascii, isLower, isUpper, isDigit, Bool.or_eq_false_iff,
    Bool.and_eq_false_iff, decide_eq_false_iff_not, beq_eq_false_iff_ne, ne_eq,
    Char.reduceToNat] at noWord
  change b = 36
  unfold CodePoint at *
  omega

namespace Pattern

/-- A name that is no keyword is one for a capture, unless it begins with a keyword and a dollar
sign. -/
theorem isCaptureName_iff {name : Text} (isName : Token.IsName isLower name)
    (noKeyword : name ∉ Token.keywords) :
    IsCaptureName name ↔ ∀ w ∈ Token.keywords, ∀ r, name ≠ w ++ '$'.toNat :: r := by
  constructor
  · intro captures w member r whole
    have stands : Token.word w name = true := Token.word_iff.mpr ⟨'$'.toNat :: r, whole, rfl⟩
    rw [captures.2 w member] at stands
    cases stands
  · intro undivided
    refine ⟨isName, fun w member => Bool.eq_false_iff.mpr fun stands => ?_⟩
    obtain ⟨r, whole, stop⟩ := Token.word_iff.mp stands
    cases r with
    | nil =>
      rw [List.append_nil] at whole
      exact noKeyword (whole ▸ member)
    | cons b r =>
      obtain ⟨first, others, same, -, parts⟩ := isName
      have nonempty : ∀ w ∈ Token.keywords, w ≠ [] := by decide
      obtain ⟨x, xs, rfl⟩ := List.exists_cons_of_ne_nil (nonempty w member)
      have behind : others = xs ++ b :: r := (List.cons.inj (same.symm.trans whole)).2
      have part : isNamePart b = true := parts b (by rw [behind]; simp)
      rw [Character.eq_dollar part stop] at whole
      exact undivided _ member r whole

end Pattern

namespace Pattern.Parser

section Reading

variable {name : Text}

/-! ## Names that are read -/

/-- A name is read as a capture name alone, with dots on either side, in front of a structure and as
the rest of an object. -/
structure Captures (name : Text) : Prop where
  alone : parse name = .ok (.argumentList [.identifier name])
  dotsBehind : parse (name ++ Token.dots) = .ok (.argumentList [.rest (.identifier name)])
  dotsBefore : parse (Token.dots ++ name) = .ok (.argumentList [.rest (.identifier name)])
  bound : parse (name ++ Text.ofString "@[]") = .ok (.argumentList [.binder name (.array [])])
  objectRest : parse ('\x7b'.toNat :: (name ++ Text.ofString "...\x7d")) =
    .ok (.argumentList [.object [.rest (.identifier name)]])

theorem captures_of_isCaptureName (isName : IsCaptureName name) : Captures name where
  alone := by
    have whole : (Cursor.start name).buffer = name ++ [] := (List.append_nil name).symm
    have captured := captureName_of_buffer isName whole rfl
    exact parse_of_item (.element (.identifier captured)) (Cursor.Spans.buffer_advance whole)
  dotsBehind := by
    have whole : (Cursor.start (name ++ Token.dots)).buffer = name ++ Token.dots := rfl
    have captured := captureName_of_buffer isName whole rfl
    have behind := Cursor.Spans.buffer_advance whole
    have dots := Cursor.Spans.of_buffer (behind.trans (List.append_nil _).symm)
    exact parse_of_item (.namedRest captured dots)
      (Cursor.Spans.buffer_advance (behind.trans (List.append_nil _).symm))
  dotsBefore := by
    have whole : (Cursor.start (Token.dots ++ name)).buffer = Token.dots ++ name := rfl
    have behind := (Cursor.Spans.buffer_advance whole).trans (List.append_nil name).symm
    have captured := captureName_of_buffer isName behind rfl
    exact parse_of_item (.rest (Cursor.Spans.of_buffer whole) (.identifier captured) fun _ => rfl)
      (Cursor.Spans.buffer_advance behind)
  bound := by
    have whole : (Cursor.start (name ++ Text.ofString "@[]")).buffer =
        name ++ Text.ofString "@[]" := rfl
    have captured := captureName_of_buffer isName whole rfl
    have behind := Cursor.Spans.buffer_advance whole
    have bound := Cursor.Spans.buffer_advance (w := Text.ofString "@") behind
    have opened := Cursor.Spans.buffer_advance (w := ['['.toNat]) bound
    have empty : Spells (.pattern (.array [] false)) _ _ :=
      .array (.enclosed (Cursor.Spans.of_buffer bound) (Blanks.refl _) .none (Blanks.refl _)
        (Cursor.Spans.of_buffer opened) (Nat.zero_le 1))
    exact parse_of_item
      (.element (.binder captured (Cursor.Spans.of_buffer behind) rfl empty))
      (Cursor.Spans.buffer_advance opened)
  objectRest := by
    have whole : (Cursor.start ('\x7b'.toNat :: (name ++ Text.ofString "...\x7d"))).buffer =
        ['\x7b'.toNat] ++ (name ++ Text.ofString "...\x7d") := rfl
    have opened := Cursor.Spans.buffer_advance whole
    have captured := captureName_of_buffer isName opened rfl
    have behind := Cursor.Spans.buffer_advance (w := name) opened
    have dots := Cursor.Spans.of_buffer (w := Token.dots) (r := ['\x7d'.toNat]) behind
    have closed := Cursor.Spans.buffer_advance (w := Token.dots) (r := ['\x7d'.toNat]) behind
    have fields : Spells (.pattern (.object [.rest (.identifier name)] false)) _ _ :=
      .object (.enclosed (Cursor.Spans.of_buffer whole) (Blanks.refl _)
        (.one (.namedRest captured dots)) (Blanks.refl _)
        (Cursor.Spans.of_buffer (w := ['\x7d'.toNat]) (r := []) closed) (Nat.le_refl 1))
    exact parse_of_item (.element fields)
      (Cursor.Spans.buffer_advance (w := ['\x7d'.toNat]) (r := []) closed)

end Reading

/-! ## Names that are refused -/

section Refusing

variable {c d : Cursor} {w r t : Text}

/-- Reading a text stops with its first part read. -/
def stopped (reason : Reason) (before rest : Text) : ParseError :=
  .malformed reason ⟨before ++ rest, rest, before.length⟩

/-- A word is read in place of a name that goes on behind it, and the rest of the name is left. As a
key the name is read, but then no dots can follow. -/
structure Divides (w rest : Text) : Prop where
  alone : parse (w ++ rest) = .error (stopped .unexpectedCharacter w rest)
  dotsBehind : parse (w ++ rest ++ Token.dots) =
    .error (stopped .unexpectedCharacter w (rest ++ Token.dots))
  dotsBefore : parse (Token.dots ++ (w ++ rest)) =
    .error (stopped .unexpectedCharacter (Token.dots ++ w) rest)
  bound : parse (w ++ rest ++ Text.ofString "@[]") =
    .error (stopped .unexpectedCharacter w (rest ++ Text.ofString "@[]"))
  objectRest : parse ('\x7b'.toNat :: (w ++ rest ++ Text.ofString "...\x7d")) =
    .error (stopped (.expectedChar '\x7d') ('\x7b'.toNat :: (w ++ rest))
      (Text.ofString "...\x7d"))

/-- No named rest begins with a keyword that is a whole word. -/
theorem rest_silent_of_keyword (pattern : Reader Pattern) (member : w ∈ Token.keywords)
    (word : Word w c d) : rest pattern c = .ok (none, c) := by
  have letters : ∀ w ∈ Token.keywords, Token.startsWith (· == '.'.toNat) w = false ∧ w ≠ [] := by
    decide
  obtain ⟨noDot, nonempty⟩ := letters w member
  refine rest_silent (Option.eq_none_iff_forall_ne_some.mpr fun pair found => ?_) (dots_silent ?_)
  · obtain ⟨n, a, -, captured, -⟩ := lex?_postfixRest_iff.mp found
    exact captured.2 w member d word
  · obtain ⟨b, bs, rfl⟩ := List.exists_cons_of_ne_nil nonempty
    rw [startsWith_of_head word.1.head]
    exact noDot

/-- An item at the start with neither a blank nor a comma behind it is all that is read. -/
theorem parse_of_first {text before : Text} {b : CodePoint}
    (visible : Token.startsWith isBlank text = false)
    (read : ∃ tree, firstOf [rest (pattern text.length), pattern text.length] (Cursor.start text) =
      .ok (some tree, d))
    (span : (Cursor.start text).Spans before d) (behind : d.buffer = b :: r)
    (noBlank : isBlank b = false) (noComma : b ≠ ','.toNat) :
    parse text = .error (stopped .unexpectedCharacter before (b :: r)) := by
  obtain ⟨tree, read⟩ := read
  have head : d.buffer.head? = some b := by
    rw [behind]
    rfl
  have skipped : d.skipBlanks = d :=
    Cursor.skipBlanks_of_not_blank (by rw [startsWith_of_head head, noBlank])
  have stop : d.acceptChar? ',' = none :=
    Cursor.acceptChar?_eq_none (by rw [startsWith_of_head head, beq_eq_false_iff_ne.mpr noComma])
  obtain rfl : text = before ++ b :: r := by
    rw [← behind]
    exact span.buffer
  have inside : sequenceItems (pattern (before ++ b :: r).length)
      (Cursor.start (before ++ b :: r)) = .ok ([tree], d) := by
    have nonempty : 0 < (Cursor.start (before ++ b :: r)).buffer.length := by simp [Cursor.start]
    obtain ⟨limit, length⟩ := Nat.exists_eq_add_one.mpr nonempty
    rw [sequenceItems, items, length, commaSeparated, read]
    simp only [Bool.false_and, Bool.false_eq_true, if_false, skipped, stop]
  have place : d = ⟨before ++ b :: r, b :: r, before.length⟩ := by
    rw [span.2]
    simp [Cursor.start, Cursor.advance]
  have more : d.atEnd = false := by rw [Cursor.atEnd, behind]; rfl
  have unread : (Cursor.start (before ++ b :: r)).skipBlanks = Cursor.start (before ++ b :: r) :=
    Cursor.skipBlanks_of_not_blank visible
  unfold parse
  dsimp only
  rw [unread, inside]
  simp only [skipped, more, Bool.false_eq_true, if_false]
  rw [stopped, place]

/-- A keyword stands in front of a dollar sign as a whole word. -/
theorem word_of_dollar (same : c.buffer = w ++ '$'.toNat :: r) :
    Word w c (c.advance w.length) :=
  ⟨Cursor.Spans.of_buffer same, by rw [Cursor.Spans.buffer_advance same]; rfl⟩

/-- A keyword with a dollar sign behind it is read as a literal at any depth. -/
theorem pattern_of_divided {n : Nat} (member : w ∈ Token.keywords) (positive : 0 < n)
    (same : c.buffer = w ++ '$'.toNat :: r) :
    ∃ tree, pattern n c = .ok (some tree, c.advance w.length) := by
  obtain ⟨depth, rfl⟩ := Nat.exists_eq_add_one.mpr positive
  exact patternStep_of_keyword member (word_of_dollar same)

/-- A text that begins with a keyword and a dollar sign is refused at the dollar sign. -/
theorem parse_divided {text : Text} (member : w ∈ Token.keywords)
    (same : text = w ++ '$'.toNat :: r) :
    parse text = .error (stopped .unexpectedCharacter w ('$'.toNat :: r)) := by
  have visible : ∀ w ∈ Token.keywords, ∀ t, Token.startsWith isBlank (w ++ t) = false := by
    simp only [Token.keywords, List.map_cons, List.map_nil, List.forall_mem_cons, List.not_mem_nil,
      false_implies, implies_true, and_true]
    exact ⟨fun _ => rfl, fun _ => rfl, fun _ => rfl, fun _ => rfl⟩
  have whole : (Cursor.start text).buffer = w ++ '$'.toNat :: r := same
  have positive : 0 < text.length := by simp [same]
  obtain ⟨tree, read⟩ := pattern_of_divided member positive whole
  refine parse_of_first (by rw [same]; exact visible w member _) ⟨tree, ?_⟩ (Cursor.Spans.of_buffer whole)
    (Cursor.Spans.buffer_advance whole) rfl (by decide)
  simp only [firstOf, rest_silent_of_keyword _ member (word_of_dollar whole)]
  rw [read]

/-- Dots in front of a keyword and a dollar sign hold the literal, and the text is refused behind
it. -/
theorem parse_dots_divided {text : Text} (member : w ∈ Token.keywords)
    (same : text = Token.dots ++ (w ++ '$'.toNat :: r)) :
    parse text = .error (stopped .unexpectedCharacter (Token.dots ++ w) ('$'.toNat :: r)) := by
  have whole : (Cursor.start text).buffer = Token.dots ++ (w ++ '$'.toNat :: r) := same
  have dots := Cursor.Spans.of_buffer whole
  have behind := Cursor.Spans.buffer_advance whole
  have positive : 0 < text.length := by simp [same]
  obtain ⟨tree, read⟩ := pattern_of_divided member positive behind
  refine parse_of_first (by rw [same]; rfl) ⟨.rest tree, ?_⟩ (dots.trans (Cursor.Spans.of_buffer behind))
    (Cursor.Spans.buffer_advance behind) rfl (by decide)
  simp only [firstOf]
  rw [rest_of_dots dots read]
  rfl

/-- As a key in front of dots such a name is read whole, and nothing else of the object is. -/
theorem fields_divided (pattern : Reader Pattern) {name : Text} (member : w ∈ Token.keywords)
    (isName : Token.IsName isLower name) (divided : name = w ++ '$'.toNat :: r)
    (span : c.Spans name d) (behind : d.buffer = '.'.toNat :: t) :
    fields pattern c.skipBlanks = .ok ([.key name], d) := by
  obtain ⟨b, bs, spelled, lower, parts⟩ := isName
  have start : isNameStart b = true := by simp [isNameStart, lower]
  have first : c.buffer.head? = some b := by
    rw [span.buffer, spelled]
    rfl
  have visible : isBlank b = false := by
    refine Bool.eq_false_iff.mpr fun blank => ?_
    have opening := isBlank_not_opening blank
    simp [isOpening, start] at opening
  have key : Key name c d := .inr ⟨span, ⟨b, bs, spelled, start, parts⟩, by rw [behind]; rfl⟩
  have word : Word w c (c.advance w.length) :=
    word_of_dollar (r := r ++ '.'.toNat :: t) (by rw [span.buffer, behind, divided]; simp)
  have noRest : fieldRest pattern c = .ok (none, c) :=
    fieldRest_silent (rest_silent_of_keyword pattern member word)
  have unmoved : d.skipBlanks = d := Cursor.skipBlanks_of_not_blank (by rw [behind]; rfl)
  have noColon : d.acceptChar? ':' = none := Cursor.acceptChar?_eq_none (by rw [behind]; rfl)
  have noComma : d.acceptChar? ',' = none := Cursor.acceptChar?_eq_none (by rw [behind]; rfl)
  have nonempty : 0 < c.buffer.length := by simp [span.buffer, spelled]
  obtain ⟨limit, length⟩ := Nat.exists_eq_add_one.mpr nonempty
  rw [Cursor.skipBlanks_of_not_blank (by rw [startsWith_of_head first, visible]), fields, items,
    length, commaSeparated]
  simp only [firstOf, noRest, keyed, key_of_named key, unmoved, noColon, noComma, Bool.false_and,
    Bool.false_eq_true, if_false]

/-- The object is not closed behind the key, so the text is refused there. -/
theorem parse_field_divided {text name : Text} (member : w ∈ Token.keywords)
    (isName : Token.IsName isLower name) (divided : name = w ++ '$'.toNat :: r)
    (same : text = '\x7b'.toNat :: (name ++ Text.ofString "...\x7d")) :
    parse text = .error (stopped (.expectedChar '\x7d') ('\x7b'.toNat :: name)
      (Text.ofString "...\x7d")) := by
  obtain ⟨c, opens, opened⟩ : ∃ c, (Cursor.start text).Spans ['\x7b'.toNat] c ∧
      c.buffer = name ++ Text.ofString "...\x7d" :=
    ⟨_, Cursor.Spans.of_buffer same, Cursor.Spans.buffer_advance (w := [_]) same⟩
  obtain ⟨d, named, behind⟩ : ∃ d, c.Spans name d ∧ d.buffer = Text.ofString "...\x7d" :=
    ⟨_, Cursor.Spans.of_buffer opened, Cursor.Spans.buffer_advance opened⟩
  have unmoved : d.skipBlanks = d := Cursor.skipBlanks_of_not_blank (by rw [behind]; rfl)
  have notClosed : d.acceptChar? '\x7d' = none :=
    Cursor.acceptChar?_eq_none (by rw [behind]; rfl)
  have place : d = ⟨'\x7b'.toNat :: name ++ Text.ofString "...\x7d", Text.ofString "...\x7d",
      ('\x7b'.toNat :: name).length⟩ := by
    rw [(opens.trans named).2]
    simp [Cursor.start, Cursor.advance, same]
  have noRest : rest (pattern text.length) (Cursor.start text) = .ok (none, Cursor.start text) :=
    rest_silent (postfixRest_silent (by rw [startsWith_of_head opens.head]; rfl))
      (dots_silent (by rw [startsWith_of_head opens.head]; rfl))
  apply parse_of_failed (Blanks.refl _) opens.head rfl noRest
  intro depth
  have failed : object (pattern depth) (Cursor.start text) =
      .error (.malformed (.expectedChar '\x7d') d) := by
    rw [object, building, bracketed, Cursor.acceptChar?_iff.mpr opens]
    simp only [fields_divided (pattern depth) member isName divided named behind, unmoved,
      notClosed]
  rw [stopped, ← place, patternStep_of_lead 9 (by simp [decisive]) opens.head (by decide)]
  · exact failed
  · intro e silent
    cases failed.symm.trans silent

theorem divides_of_keyword {name : Text} (member : w ∈ Token.keywords)
    (isName : Token.IsName isLower name) (divided : name = w ++ '$'.toNat :: r) :
    Divides w ('$'.toNat :: r) where
  alone := parse_divided member rfl
  dotsBehind := parse_divided member (List.append_assoc _ _ _)
  dotsBefore := parse_dots_divided member rfl
  bound := parse_divided member (List.append_assoc _ _ _)
  objectRest := divided ▸ parse_field_divided member isName divided rfl

end Refusing

/-- A name that is no keyword is a capture name wherever one can stand, unless it is a keyword with
a dollar sign behind it, and more name characters. Such a name is refused in each of these places:
at the dollar sign, or in an object behind the name. -/
theorem capture_names_read {name : Text} (isName : Token.IsName isLower name)
    (noKeyword : name ∉ Token.keywords) :
    ((∀ w ∈ Token.keywords, ∀ r, name ≠ w ++ '$'.toNat :: r) → Captures name) ∧
      ∀ w ∈ Token.keywords, ∀ r, name = w ++ '$'.toNat :: r → Divides w ('$'.toNat :: r) := by
  constructor
  · intro undivided
    exact captures_of_isCaptureName ((isCaptureName_iff isName noKeyword).mpr undivided)
  · intro w member r divided
    exact divides_of_keyword member isName divided

/-- An underscore goes on with the keyword and a dollar sign does not. -/
theorem capture_names_read_dollar :
    Captures (Text.ofString "null_1") ∧ Divides (Text.ofString "true") (Text.ofString "$") := by
  have underscored : Token.IsName isLower (Text.ofString "null_1") :=
    ⟨_, _, rfl, by decide, by decide⟩
  have dollared : Token.IsName isLower (Text.ofString "true$") := ⟨_, _, rfl, by decide, by decide⟩
  have undivided := (isCaptureName_iff underscored (by decide)).mp ⟨underscored, by decide⟩
  exact ⟨(capture_names_read underscored (by decide)).1 undivided,
    (capture_names_read dollared (by decide)).2 (Text.ofString "true") (by decide) [] rfl⟩

end Pattern.Parser

end PatternDispatch
