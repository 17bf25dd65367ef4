import PatternDispatch.Proofs.GrammarAlternatives

/-!
What the grammar derives, the readers find. The grammar lets a derivation stop anywhere, while a
reader takes the first alternative that fits and all of a token there is. The two agree wherever a
derivation can go on, because of what can follow an item there.
-/

namespace PatternDispatch.Grammar

open Character Pattern.Parser

/-! ## How far a derivation goes -/

section Extent

variable {c d : Cursor}

theorem Blanks.reaches (blanks : Blanks c d) : c.Reaches d := by
  obtain ⟨w, -, span⟩ := blanks
  exact ⟨w, span⟩

theorem Name.passes {isFirst : CodePoint → Bool} {n : Text} (name : Name isFirst n c d) :
    c.Passes d := by
  obtain ⟨span, ⟨b, bs, rfl, -⟩, -⟩ := name
  exact ⟨_, by simp, span⟩

theorem Key.passes {n : Text} (key : Key n c d) : c.Passes d :=
  key.elim Cursor.string_some Name.passes

/-- A derivation passes over text, but for items there may be none. -/
def Extent : Part → Cursor → Cursor → Prop
  | .items _ _ _, c, d => c.Reaches d
  | _, c, d => c.Passes d

theorem Spells.extent {part : Part} (derived : Spells part c d) : Extent part c d := by
  induction derived with
  | wildcard span => exact ⟨_, by decide, span⟩
  | null word => exact ⟨_, by decide, word.1⟩
  | undefined word => exact ⟨_, by decide, word.1⟩
  | boolean value word => exact ⟨_, by cases value <;> decide, word.1⟩
  | number read => exact Cursor.number_some read
  | string read => exact Cursor.string_some read
  | identifier name => exact name.1.passes
  | binder name bound _ _ ih =>
    exact (name.1.passes.trans_reaches ⟨_, bound⟩).trans_reaches ih.reaches
  | array _ ih | object _ ih => exact ih
  | tag name => exact name.passes
  | tagArray name _ ih | tagObject name _ ih => exact name.passes.trans_reaches ih.reaches
  | extractor dollar name => exact Cursor.Reaches.trans_passes ⟨_, dollar⟩ name.passes
  | extractorEmpty dollar name opens blanks closes =>
    exact ((Cursor.Reaches.trans_passes ⟨_, dollar⟩ name.passes).trans_reaches
      ⟨_, opens⟩).trans_reaches (blanks.reaches.trans ⟨_, closes⟩)
  | extractorOf dollar name opens before _ after closes ih =>
    exact (((Cursor.Reaches.trans_passes ⟨_, dollar⟩ name.passes).trans_reaches
      ⟨_, opens⟩).trans_reaches (before.reaches.trans ih.reaches)).trans_reaches
      (after.reaches.trans ⟨_, closes⟩)
  | element _ ih => exact ih
  | dots span => exact ⟨_, by decide, span⟩
  | rest dots _ _ ih => exact Cursor.Reaches.trans_passes ⟨_, dots⟩ ih
  | namedRest name dots => exact name.1.passes.trans_reaches ⟨_, dots⟩
  | key key => exact key.passes
  | keyValue key before colon after _ ih =>
    exact key.passes.trans_reaches
      ((before.reaches.trans ⟨_, colon⟩).trans (after.reaches.trans ih.reaches))
  | none => exact Cursor.Reaches.refl _
  | one _ ih => exact ih.reaches
  | trailing _ blanks comma ih => exact (ih.reaches.trans blanks.reaches).trans ⟨_, comma⟩
  | more _ before comma after _ ih ihItems =>
    exact ((ih.reaches.trans before.reaches).trans ⟨_, comma⟩).trans (after.reaches.trans ihItems)
  | enclosed opens before _ after closes _ ih =>
    exact Cursor.Passes.trans_reaches ⟨_, by simp, opens⟩
      ((before.reaches.trans ih).trans (after.reaches.trans ⟨_, closes⟩))

theorem Spells.enclosed_head {opening closing : Char} {place : Place} {forms : List Form}
    {trailing : Bool} (derived : Spells (.enclosed opening closing place forms trailing) c d) :
    c.buffer.head? = some opening.toNat := by
  cases derived with
  | enclosed opens => exact opens.head

end Extent

/-! ## What reading a part finds -/

/-- The reader of the items at a place. -/
def itemReader (place : Place) (pattern : Reader Pattern) : Reader Pattern :=
  match place with
  | .sequence => firstOf [rest pattern, pattern]
  | .fields => firstOf [fieldRest pattern, keyed pattern]

/-- The readers of what a name can be bound to. -/
abbrev structures (pattern : Reader Pattern) : List (Reader Pattern) :=
  [classPattern pattern, array pattern, object pattern]

/-- What reading a part finds, with a reader of nested patterns that is deep enough for the text
that is left. -/
def Reads : Part → Cursor → Cursor → Prop
  | .pattern form, c, d => ∀ n, c.buffer.length ≤ n + 1 → Followed d →
      patternStep (pattern n) c = .ok (some form.tree, d) ∧
        (form.isStructure = true →
          firstOf (structures (pattern n)) c = .ok (some form.tree, d))
  | .item place form, c, d => ∀ n, c.buffer.length ≤ n → Followed d →
      ∃ e, itemReader place (pattern n) c = .ok (some form.tree, e) ∧ Blanks d e
  | .items place forms _, c, d => ∀ n limit hasRest, c.buffer.length ≤ n →
      c.skipBlanks.buffer.length ≤ limit → forms.countP Form.isRest + hasRest.toNat ≤ 1 →
      Ended d →
      ∃ e, commaSeparated (itemReader place (pattern n)) limit hasRest c.skipBlanks =
          .ok (Form.trees forms, e) ∧ e.skipBlanks = d.skipBlanks
  | .enclosed opening closing place forms _, c, d => ∀ n, c.buffer.length ≤ n + 1 →
      isCloser closing.toNat = true →
      bracketed opening closing (items (itemReader place (pattern n))) c =
        .ok (some (Form.trees forms), d)

section Nested

variable {c d : Cursor} {form : Form} {n : Nat}

/-- A nested pattern is read with one level less. -/
theorem Reads.nested (reads : Reads (.pattern form) c d) (passes : c.Passes d)
    (within : c.buffer.length ≤ n) (followed : Followed d) :
    pattern n c = .ok (some form.tree, d) := by
  have nonempty := passes.length_lt
  cases n with
  | zero => omega
  | succ n => exact (reads n within followed).1

/-- A pattern begins with a character that patterns begin with. -/
theorem Reads.visible (reads : Reads (.pattern form) c d) (followed : Followed d) :
    Token.startsWith isBlank c.buffer = false := by
  apply startsWith_false
  intro b head
  cases blank : isBlank b with
  | false => rfl
  | true =>
    have silent : patternStep (pattern c.buffer.length) c = .ok (none, c) :=
      patternStep_silent (by rw [startsWith_of_head head, isBlank_not_opening blank])
    rw [(reads c.buffer.length (by omega) followed).1] at silent
    cases silent

end Nested

/-! ## Patterns -/

section Patterns

variable {c d : Cursor} {b : CodePoint} {n : Nat} {form : Form}

theorem building_some {α : Type} {reader : Reader α} {make : α → Pattern} {found : α}
    (read : reader c = .ok (some found, d)) : building reader make c = .ok (some (make found), d) := by
  rw [building, read]
  rfl

theorem building_lexeme {token : Token} {make : Text → Pattern} {l : Lexeme}
    (lexed : c.lex? token = some (l, d)) :
    building (lexeme token) make c = .ok (some (make l.value), d) :=
  building_some (by rw [lexeme, lexed])

/-- A decisive alternative finds the pattern when no earlier one can begin where it does. -/
theorem patternStep_of_found {pattern : Reader Pattern} {tree : Pattern} (k : Nat)
    (within : k < (decisive pattern).length) (head : c.buffer.head? = some b)
    (others : ∀ lead ∈ leads.take k, lead b = false)
    (found : (decisive pattern)[k] c = .ok (some tree, d)) :
    patternStep pattern c = .ok (some tree, d) := by
  rw [patternStep_of_lead k within head others, found]
  intro e nothing
  rw [found] at nothing
  cases nothing

/-- A form that is no structure is read as soon as its alternative finds it. -/
theorem reads_pattern (flat : form.isStructure = false)
    (found : ∀ n, c.buffer.length ≤ n + 1 → Followed d →
      patternStep (pattern n) c = .ok (some form.tree, d)) : Reads (.pattern form) c d :=
  fun n within followed => ⟨found n within followed, fun bound => by
    rw [flat] at bound
    cases bound⟩

theorem reads_wildcard (span : c.Spans (Text.ofString "_") d) : Reads (.pattern .wildcard) c d := by
  apply reads_pattern rfl
  intro n _ _
  have accepted : c.acceptChar? '_' = some d := Cursor.acceptChar?_iff.mpr span
  apply patternStep_of_found 0 (by simp [decisive]) span.head (by decide)
  change wildcard c = _
  rw [wildcard, accepted]
  rfl

section Keywords

variable {pattern : Reader Pattern}

theorem patternStep_of_null (word : Word (Text.ofString "null") c d) :
    patternStep pattern c = .ok (some .null, d) :=
  patternStep_of_found 1 (by simp [decisive]) word.1.head (by decide)
    (building_lexeme (lex?_null_iff.mpr ⟨rfl, word⟩))

theorem patternStep_of_undefined (word : Word (Text.ofString "undefined") c d) :
    patternStep pattern c = .ok (some .undefined, d) :=
  patternStep_of_found 2 (by simp [decisive]) word.1.head (by decide)
    (building_lexeme (lex?_undefined_iff.mpr ⟨rfl, word⟩))

theorem patternStep_of_boolean {value : Bool} (word : Word (truthWord value) c d) :
    patternStep pattern c = .ok (some (.boolean value), d) := by
  have lexed := lex?_boolean_iff.mpr ⟨value, rfl, word⟩
  cases value with
  | true =>
    exact patternStep_of_found 3 (by simp [decisive]) word.1.head (by decide) (building_lexeme lexed)
  | false =>
    exact patternStep_of_found 3 (by simp [decisive]) word.1.head (by decide) (building_lexeme lexed)

/-- A keyword that is a whole word is read as a literal, whatever stands behind it. -/
theorem patternStep_of_keyword {w : Text} (member : w ∈ Token.keywords) (word : Word w c d) :
    ∃ tree, patternStep pattern c = .ok (some tree, d) := by
  simp only [Token.keywords, List.map_cons, List.map_nil, List.mem_cons, List.not_mem_nil,
    or_false] at member
  obtain rfl | rfl | rfl | rfl := member
  · exact ⟨.null, patternStep_of_null word⟩
  · exact ⟨.undefined, patternStep_of_undefined word⟩
  · exact ⟨.boolean true, patternStep_of_boolean (show Word (truthWord true) c d from word)⟩
  · exact ⟨.boolean false, patternStep_of_boolean (show Word (truthWord false) c d from word)⟩

end Keywords

theorem reads_null (word : Word (Text.ofString "null") c d) : Reads (.pattern .null) c d :=
  reads_pattern rfl fun _ _ _ => patternStep_of_null word

theorem reads_undefined (word : Word (Text.ofString "undefined") c d) :
    Reads (.pattern .undefined) c d := reads_pattern rfl fun _ _ _ => patternStep_of_undefined word

theorem reads_boolean {value : Bool} (word : Word (truthWord value) c d) :
    Reads (.pattern (.boolean value)) c d := reads_pattern rfl fun _ _ _ => patternStep_of_boolean word

theorem exists_head (isFirst : CodePoint → Bool)
    (begins : Token.startsWith isFirst c.buffer ≠ false) :
    ∃ b, c.buffer.head? = some b ∧ isFirst b = true := by
  rw [Token.startsWith_eq] at begins
  cases head : c.buffer.head? with
  | none => rw [head] at begins; exact absurd rfl begins
  | some b => rw [head] at begins; exact ⟨b, rfl, by simpa using begins⟩

theorem reads_number {token : Text} {value : Number} (read : c.number = .ok (some value, d)) :
    Reads (.pattern (.number token value)) c d := by
  apply reads_pattern rfl
  intro n _ _
  rw [patternStep_of_number (by simp [read])]
  exact building_some read

theorem reads_string {value : Text} (read : c.string = .ok (some value, d)) :
    Reads (.pattern (.string value)) c d := by
  apply reads_pattern rfl
  intro n _ _
  obtain ⟨b, head, first⟩ := exists_head (c := c) Cursor.isQuote fun other => by
    rw [Cursor.string_of_not_quote other] at read
    cases read
  refine patternStep_of_found 5 (by simp [decisive]) head ?_ (building_some read)
  simp only [Cursor.isQuote, Bool.or_eq_true, beq_iff_eq] at first
  rcases first with rfl | rfl <;> decide

theorem reads_identifier {name : Text} (captured : CaptureName name c d) :
    Reads (.pattern (.identifier name)) c d := by
  apply reads_pattern rfl
  intro n _ followed
  have unbound : d.acceptChar? '@' = none :=
    Cursor.acceptChar?_eq_none (followed.not_head rfl rfl)
  rw [patternStep_of_captureName captured, identifierOrBinder,
    lex?_identifier_iff.mpr ⟨name, rfl, captured.1⟩]
  simp only [unbound]
  rfl

theorem reads_binder {a e : Cursor} {name : Text} {inner : Form} (captured : CaptureName name c a)
    (bound : a.Spans (Text.ofString "@") e) (structured : inner.isStructure = true)
    (reads : Reads (.pattern inner) e d) : Reads (.pattern (.binder name inner)) c d := by
  apply reads_pattern rfl
  intro n within followed
  have shorter := captured.1.passes.length_lt
  have behind := bound.length_le
  have accepted : a.acceptChar? '@' = some e := Cursor.acceptChar?_iff.mpr bound
  have found := (reads n (by omega) followed).2 structured
  rw [patternStep_of_captureName captured, identifierOrBinder,
    lex?_identifier_iff.mpr ⟨name, rfl, captured.1⟩]
  simp only [accepted, found]
  rfl

end Patterns

/-! ## Structures -/

section Structures

variable {c d : Cursor} {n : Nat} {name : Text} {forms : List Form} {trailing : Bool}

theorem reads_array (reads : Reads (.enclosed '[' ']' .sequence forms trailing) c d)
    (opens : c.buffer.head? = some '['.toNat) : Reads (.pattern (.array forms trailing)) c d := by
  intro n within _
  have found : array (pattern n) c = .ok (some (.array (Form.trees forms)), d) :=
    building_some (reads n within rfl)
  refine ⟨patternStep_of_found 8 (by simp [decisive]) opens (by decide) found, fun _ => ?_⟩
  rw [structures, firstOf, classPattern_silent (by rw [startsWith_of_head opens]; rfl)]
  simp only [firstOf, found]
  rfl

theorem reads_object (reads : Reads (.enclosed '\x7b' '\x7d' .fields forms trailing) c d)
    (opens : c.buffer.head? = some '\x7b'.toNat) :
    Reads (.pattern (.object forms trailing)) c d := by
  intro n within _
  have found : object (pattern n) c = .ok (some (.object (Form.trees forms)), d) :=
    building_some (reads n within rfl)
  refine ⟨patternStep_of_found 9 (by simp [decisive]) opens (by decide) found, fun _ => ?_⟩
  rw [structures, firstOf, classPattern_silent (by rw [startsWith_of_head opens]; rfl)]
  simp only [firstOf, array_silent (c := c) (by rw [startsWith_of_head opens]; rfl), found]
  rfl

/-- A form that begins with a class name is read by the reader of class patterns. -/
theorem reads_class {form : Form} {a : Cursor} (named : Name isUpper name c a)
    (found : ∀ n, c.buffer.length ≤ n + 1 → Followed d →
      classPattern (pattern n) c = .ok (some form.tree, d)) : Reads (.pattern form) c d := by
  intro n within followed
  obtain ⟨b, head, upper⟩ := named.head
  have read := found n within followed
  refine ⟨patternStep_of_found 6 (by simp [decisive]) head ?_ read, fun _ => ?_⟩
  · simp only [isUpper, Bool.and_eq_true, decide_eq_true_eq] at upper
    simp only [leads, List.take_succ_cons, List.take_zero, List.forall_mem_cons, List.not_mem_nil,
      false_implies, implies_true, and_true, Cursor.isNumberStart, Cursor.isQuote, isDigit,
      Bool.or_eq_false_iff, Bool.and_eq_false_iff, decide_eq_false_iff_not, beq_eq_false_iff_ne,
      ne_eq, Char.reduceToNat] at upper ⊢
    unfold CodePoint at *
    omega
  · simp only [firstOf, read]

theorem reads_tag (named : Name isUpper name c d) : Reads (.pattern (.tag name)) c d := by
  apply reads_class named
  intro n _ followed
  have keyless : building (bracketed '\x7b' '\x7d' (fields (pattern n))) (.tagObject name) d =
      .ok (none, d) := building_silent (bracketed_silent (followed.not_head rfl rfl))
  have flat : building (bracketed '(' ')' (sequenceItems (pattern n))) (.tagArray name) d =
      .ok (none, d) := building_silent (bracketed_silent (followed.not_head rfl rfl))
  rw [classPattern, lex?_className_iff.mpr ⟨name, rfl, named⟩]
  change firstOf [_, _, _] d = _
  simp only [firstOf, Token.whole, Lexeme.value, Option.getD_none, keyless, flat]
  rfl

theorem reads_tagObject {a : Cursor} (named : Name isUpper name c a)
    (reads : Reads (.enclosed '\x7b' '\x7d' .fields forms trailing) a d) :
    Reads (.pattern (.tagObject name forms trailing)) c d := by
  apply reads_class named
  intro n within _
  have shorter := named.passes.length_lt
  have found : building (bracketed '\x7b' '\x7d' (fields (pattern n))) (.tagObject name) a =
      .ok (some (.tagObject name (Form.trees forms)), d) :=
    building_some (reads n (by omega) rfl)
  rw [classPattern, lex?_className_iff.mpr ⟨name, rfl, named⟩]
  change firstOf [_, _, _] a = _
  simp only [firstOf, Token.whole, Lexeme.value, Option.getD_none, found]
  rfl

theorem reads_tagArray {a : Cursor} (named : Name isUpper name c a)
    (opens : a.buffer.head? = some '('.toNat)
    (reads : Reads (.enclosed '(' ')' .sequence forms trailing) a d) :
    Reads (.pattern (.tagArray name forms trailing)) c d := by
  apply reads_class named
  intro n within _
  have shorter := named.passes.length_lt
  have keyless : building (bracketed '\x7b' '\x7d' (fields (pattern n))) (.tagObject name) a =
      .ok (none, a) :=
    building_silent (bracketed_silent (by rw [startsWith_of_head opens]; rfl))
  have found : building (bracketed '(' ')' (sequenceItems (pattern n))) (.tagArray name) a =
      .ok (some (.tagArray name (Form.trees forms)), d) :=
    building_some (reads n (by omega) rfl)
  rw [classPattern, lex?_className_iff.mpr ⟨name, rfl, named⟩]
  change firstOf [_, _, _] a = _
  simp only [firstOf, Token.whole, Lexeme.value, Option.getD_none, keyless, found]
  rfl

end Structures

/-! ## Extractors -/

section Extractors

variable {a b c d e f : Cursor} {n : Nat} {name : Text}

/-- What the reader of extractors makes of the parentheses. -/
def extractorTree (name : Text) : Option (Option Pattern) → Pattern
  | some (some inner) => .extractorOf name inner
  | _ => .extractor name

/-- A form that begins with an extractor name is read by the reader of extractors. -/
theorem reads_extractorForm {form : Form} (flat : form.isStructure = false)
    (dollar : c.Spans (Text.ofString "$") a) (named : Name isNameStart name a b)
    (found : ∀ n, c.buffer.length ≤ n + 1 → Followed d → ∃ inside,
      bracketed '(' ')' (pattern n) b = .ok (inside, d) ∧ extractorTree name inside = form.tree) :
    Reads (.pattern form) c d := by
  apply reads_pattern flat
  intro n within followed
  obtain ⟨inside, read, same⟩ := found n within followed
  apply patternStep_of_found 7 (by simp [decisive]) dollar.head (by decide)
  change extractor (pattern n) c = _
  rw [extractor, lex?_extractorName_iff.mpr ⟨name, a, rfl, dollar, named⟩]
  simp only [read, ← same]
  cases inside with
  | none => rfl
  | some held => cases held <;> rfl

theorem reads_extractor (dollar : c.Spans (Text.ofString "$") a)
    (named : Name isNameStart name a d) : Reads (.pattern (.extractor name)) c d :=
  reads_extractorForm rfl dollar named fun _ _ followed =>
    ⟨none, bracketed_silent (followed.not_head rfl rfl), rfl⟩

/-- What stands between brackets is read when its reader, behind blanks, stops where only blanks
stand before the closing bracket. -/
theorem bracketed_some {α : Type} {opening closing : Char}
    {inner : Cursor → Except ParseError (α × Cursor)} {found : α}
    (opens : c.Spans [opening.toNat] a) (inside : inner a.skipBlanks = .ok (found, e))
    (blanks : Blanks e f) (closes : f.Spans [closing.toNat] d)
    (visible : isBlank closing.toNat = false) :
    bracketed opening closing inner c = .ok (some found, d) := by
  have skipped : e.skipBlanks = f := blanks.skipBlanks_span closes visible
  rw [bracketed, Cursor.acceptChar?_iff.mpr opens]
  simp only [inside, skipped, Cursor.acceptChar?_iff.mpr closes]

theorem reads_extractorEmpty (dollar : c.Spans (Text.ofString "$") a)
    (named : Name isNameStart name a b) (opens : b.Spans (Text.ofString "(") e)
    (blanks : Blanks e f) (closes : f.Spans (Text.ofString ")") d) :
    Reads (.pattern (.extractorEmpty name)) c d := by
  refine reads_extractorForm rfl dollar named fun n _ _ => ⟨some none, ?_, rfl⟩
  have skipped : e.skipBlanks = f := blanks.skipBlanks_span closes rfl
  have silent : pattern n e.skipBlanks = .ok (none, f) := by
    rw [skipped, pattern_silent n (startsWith_of_head closes.head)]
  exact bracketed_some opens silent (Blanks.refl f) closes rfl

theorem reads_extractorOf {g h : Cursor} {inner : Form} (dollar : c.Spans (Text.ofString "$") a)
    (named : Name isNameStart name a b) (opens : b.Spans (Text.ofString "(") e)
    (before : Blanks e f) (passes : f.Passes g) (reads : Reads (.pattern inner) f g)
    (after : Blanks g h) (closes : h.Spans (Text.ofString ")") d) :
    Reads (.pattern (.extractorOf name inner)) c d := by
  refine reads_extractorForm rfl dollar named fun n within _ => ⟨some (some inner.tree), ?_, rfl⟩
  have shorter := named.passes.length_lt
  have bounds := And.intro dollar.length_le (And.intro opens.length_le before.length_le)
  have followed : Followed g := followed_of_span after closes rfl
  have skipped : e.skipBlanks = f := before.skipBlanks_eq (reads.visible followed)
  have inside : pattern n e.skipBlanks = .ok (some inner.tree, g) := by
    rw [skipped, reads.nested passes (by omega) followed]
  exact bracketed_some opens inside after closes rfl

end Extractors

/-! ## Items -/

section Items

variable {a b c d e f : Cursor} {n : Nat} {place : Place} {form : Form} {name : Text}

theorem reads_element (passes : c.Passes d) (reads : Reads (.pattern form) c d) :
    Reads (.item .sequence form) c d := by
  intro n within followed
  have shorter := passes.length_lt
  have noRest : rest (pattern n) c = .ok (none, c) :=
    rest_silent_of_pattern (reads (n - 1) (by omega) followed).1 followed
  refine ⟨d, ?_, Blanks.refl d⟩
  simp only [itemReader, firstOf, noRest, reads.nested passes within followed]

/-- A rest is an item at any place where what it holds may stand. -/
theorem itemReader_of_rest {pattern : Reader Pattern}
    (found : rest pattern c = .ok (some form.tree, d)) (isRest : form.isRest = true)
    (fits : place = .fields → form.holdsName = true) :
    itemReader place pattern c = .ok (some form.tree, d) := by
  cases place with
  | sequence => simp only [itemReader, firstOf, found]
  | fields =>
    have holds := fits rfl
    have kept : fieldRest pattern c = .ok (some form.tree, d) := by
      rw [fieldRest, found]
      cases form with
      | dots => rfl
      | rest inner =>
        cases inner with
        | wildcard | identifier => rfl
        | _ => cases holds
      | _ => cases isRest
    simp only [itemReader, firstOf, kept]

/-- Where dots stand, the reader of rests goes on with what they hold. -/
theorem rest_of_dots {pattern : Reader Pattern} {found : Option Pattern}
    (dots : c.Spans Token.dots a) (held : pattern a = .ok (found, d)) :
    rest pattern c = .ok (some (.rest (found.getD .wildcard)), d) := by
  rw [rest, postfixRest_silent (by rw [startsWith_of_head dots.head]; rfl),
    Cursor.accept?_iff.mpr dots]
  simp only [held]

theorem reads_dots (dots : c.Spans Token.dots d) : Reads (.item place .dots) c d := by
  intro n _ followed
  have held : pattern n d = .ok (none, d) := pattern_silent n followed.not_opening
  exact ⟨d, itemReader_of_rest (rest_of_dots dots held) rfl fun _ => rfl, Blanks.refl d⟩

theorem reads_rest (dots : c.Spans Token.dots a) (passes : a.Passes d)
    (reads : Reads (.pattern form) a d)
    (fits : place = .fields → (Form.rest form).holdsName = true) :
    Reads (.item place (.rest form)) c d := by
  intro n within followed
  have shorter := dots.length_le
  have held := reads.nested passes (n := n) (by omega) followed
  exact ⟨d, itemReader_of_rest (rest_of_dots dots held) rfl fits, Blanks.refl d⟩

theorem reads_namedRest (captured : CaptureName name c a) (dots : a.Spans Token.dots d) :
    Reads (.item place (.rest (.identifier name))) c d := by
  intro n _ _
  have found : rest (pattern n) c = .ok (some (.rest (.identifier name)), d) := by
    rw [rest, lex?_postfixRest_iff.mpr ⟨name, a, rfl, captured, dots⟩]
    rfl
  exact ⟨d, itemReader_of_rest found rfl fun _ => rfl, Blanks.refl d⟩

theorem Name.unique {isFirst other : CodePoint → Bool} {m : Text} (one : Name isFirst m c d)
    (two : Name other name c e) : d = e := by
  obtain ⟨spanM, ⟨x, xs, rfl, -, partsX⟩, stopD⟩ := one
  obtain ⟨spanN, ⟨y, ys, rfl, -, partsY⟩, stopE⟩ := two
  have whole := spanM.buffer.symm.trans spanN.buffer
  simp only [List.cons_append, List.cons.injEq] at whole
  obtain ⟨rfl, tails⟩ := whole
  have same : xs = ys := by
    rw [← Token.takeWhile_append partsX stopD, tails, Token.takeWhile_append partsY stopE]
  subst same
  exact spanM.unique spanN

theorem Key.head (named : Key name c d) :
    ∃ b, c.buffer.head? = some b ∧ (Cursor.isQuote b = true ∨ isNameStart b = true) := by
  rcases named with quoted | bare
  · obtain ⟨b, head, quote⟩ := exists_head (c := c) Cursor.isQuote fun other => by
      rw [Cursor.string_of_not_quote other] at quoted
      cases quoted
    exact ⟨b, head, .inl quote⟩
  · obtain ⟨b, head, first⟩ := bare.head
    exact ⟨b, head, .inr first⟩

/-- A key without dots behind it begins no rest. -/
theorem rest_silent_of_key (pattern : Reader Pattern) (named : Key name c d)
    (noDots : Token.startsWith (· == '.'.toNat) d.buffer = false) :
    rest pattern c = .ok (none, c) := by
  obtain ⟨b, head, first⟩ := named.head
  refine rest_silent (Option.eq_none_iff_forall_ne_some.mpr fun pair found => ?_)
    (dots_silent ?_)
  · obtain ⟨m, a, -, captured, dots⟩ := lex?_postfixRest_iff.mp found
    rcases named with quoted | bare
    · obtain ⟨x, xHead, lower⟩ := captured.1.head
      rw [Cursor.string_of_not_quote (by rw [startsWith_of_head xHead, (isLower_other lower).2.2.1])]
        at quoted
      cases quoted
    · obtain rfl := captured.1.unique bare
      rw [startsWith_of_head dots.head] at noDots
      cases noDots
  · rw [startsWith_of_head head, beq_eq_false_iff_ne]
    rintro rfl
    rcases first with quote | start
    · cases quote
    · cases start

theorem key_of_named (named : Key name c d) : key c = .ok (some name, d) := by
  rcases named with quoted | bare
  · simp only [key, firstOf, quoted]
  · obtain ⟨b, head, first⟩ := bare.head
    have noString : c.string = .ok (none, c) := by
      apply Cursor.string_of_not_quote
      rw [startsWith_of_head head]
      cases quote : Cursor.isQuote b with
      | false => rfl
      | true =>
        simp only [Cursor.isQuote, Bool.or_eq_true, beq_iff_eq] at quote
        rcases quote with rfl | rfl <;> cases first
    simp only [key, firstOf, noString, lexeme, lex?_key_iff.mpr ⟨name, rfl, bare⟩]
    rfl

theorem fieldRest_silent {pattern : Reader Pattern} (silent : rest pattern c = .ok (none, c)) :
    fieldRest pattern c = .ok (none, c) := by
  rw [fieldRest, silent]

theorem reads_key (named : Key name c d) : Reads (.item .fields (.key name)) c d := by
  intro n _ followed
  have noRest := fieldRest_silent
    (rest_silent_of_key (pattern n) named (followed.not_head rfl rfl))
  have noColon : d.skipBlanks.acceptChar? ':' = none := by
    refine Cursor.acceptChar?_eq_none (startsWith_false fun b head => ?_)
    have follower := followed b head
    rw [beq_eq_false_iff_ne]
    rintro rfl
    cases follower
  refine ⟨d.skipBlanks, ?_, d.skipBlanks_spec.1⟩
  simp only [itemReader, firstOf, noRest, keyed, key_of_named named, noColon]
  rfl

theorem reads_keyValue (named : Key name c a) (before : Blanks a b)
    (colon : b.Spans (Text.ofString ":") e) (after : Blanks e f) (passes : f.Passes d)
    (reads : Reads (.pattern form) f d) : Reads (.item .fields (.keyValue name form)) c d := by
  intro n within followed
  have shorter := named.passes.length_lt
  have bounds := And.intro before.length_le (And.intro colon.length_le after.length_le)
  have toColon : a.skipBlanks = b := before.skipBlanks_span colon rfl
  have toValue : e.skipBlanks = f := after.skipBlanks_eq (reads.visible followed)
  have noDots : Token.startsWith (· == '.'.toNat) a.buffer = false := by
    apply startsWith_false
    intro x head
    rw [beq_eq_false_iff_ne]
    rintro rfl
    rw [Cursor.skipBlanks_of_not_blank (by rw [startsWith_of_head head]; rfl)] at toColon
    subst toColon
    rw [colon.head] at head
    cases head
  have noRest := fieldRest_silent (rest_silent_of_key (pattern n) named noDots)
  have accepted : b.acceptChar? ':' = some e := Cursor.acceptChar?_iff.mpr colon
  refine ⟨d, ?_, Blanks.refl d⟩
  simp only [itemReader, firstOf, noRest, keyed, key_of_named named, toColon, accepted, toValue,
    reads.nested passes (n := n) (by omega) followed]
  rfl

/-- Where no item begins, none is found. -/
theorem itemReader_silent (place : Place) (n : Nat)
    (other : Token.startsWith isOpening c.buffer = false) :
    itemReader place (pattern n) c = .ok (none, c) := by
  have others {isFirst : CodePoint → Bool} (opening : ∀ b, isFirst b = true → isOpening b = true) :
      Token.startsWith isFirst c.buffer = false := by
    apply startsWith_false
    intro b head
    rw [startsWith_of_head head] at other
    exact Bool.eq_false_iff.mpr fun first => Bool.eq_false_iff.mp other (opening b first)
  have noRest : rest (pattern n) c = .ok (none, c) :=
    rest_silent (postfixRest_silent (others fun b lower => by simp [isOpening, isNameStart, lower]))
      (dots_silent (others fun b dot => by simp_all [isOpening, Cursor.isNumberStart]))
  cases place with
  | sequence => simp only [itemReader, firstOf, noRest, pattern_silent n other]
  | fields =>
    have noString : c.string = .ok (none, c) :=
      Cursor.string_of_not_quote (others fun b quote => by simp [isOpening, quote])
    have noName : c.lex? .key = none :=
      lex?_name_none _ (fun _ => rfl) (others fun b start => by simp [isOpening, start])
    simp only [itemReader, firstOf, fieldRest_silent noRest, keyed, key, noString, lexeme, noName]

end Items

/-! ## Lists -/

section Lists

variable {a b c d e f : Cursor} {n limit : Nat} {hasRest : Bool} {place : Place} {form : Form}
  {forms : List Form} {trailing : Bool}

/-- An item begins where blanks have been skipped. -/
theorem Reads.item_visible (reads : Reads (.item place form) c d) (followed : Followed d) :
    c.skipBlanks = c := by
  refine Cursor.skipBlanks_of_not_blank (startsWith_false fun b head => ?_)
  cases blank : isBlank b with
  | false => rfl
  | true =>
    obtain ⟨e, found, -⟩ := reads c.buffer.length (by omega) followed
    rw [itemReader_silent place _ (by rw [startsWith_of_head head, isBlank_not_opening blank])]
      at found
    cases found

/-- No item begins where a list ends. -/
theorem commaSeparated_ended (ended : Ended c) :
    commaSeparated (itemReader place (pattern n)) limit hasRest c.skipBlanks =
      .ok ([], c.skipBlanks) := by
  cases limit with
  | zero => rfl
  | succ limit =>
    have other : Token.startsWith isOpening c.skipBlanks.buffer = false :=
      startsWith_false fun b head =>
        isFollower_not_opening (by rw [isFollower, ended b head, Bool.or_true])
    simp only [commaSeparated, itemReader_silent place n other]

/-- A second rest is what the count of rests excludes. -/
theorem single_of_count (counted : (form :: forms).countP Form.isRest + hasRest.toNat ≤ 1) :
    (hasRest && form.tree.isRest) = false ∧
      forms.countP Form.isRest + (hasRest || form.tree.isRest).toNat ≤ 1 := by
  rw [List.countP_cons] at counted
  rw [Form.isRest_tree]
  revert counted
  cases form.isRest <;> cases hasRest <;> simp

/-- An item with a comma behind it goes before the items behind the comma. -/
theorem commaSeparated_more {others : List Pattern} {g : Cursor} (reads : Reads (.item place form) c a)
    (blanks : Blanks a b) (comma : b.Spans (Text.ofString ",") e) (within : c.buffer.length ≤ n)
    (single : (hasRest && form.tree.isRest) = false)
    (later : commaSeparated (itemReader place (pattern n)) limit (hasRest || form.tree.isRest)
      e.skipBlanks = .ok (others, g)) :
    commaSeparated (itemReader place (pattern n)) (limit + 1) hasRest c =
      .ok (form.tree :: others, g) := by
  obtain ⟨h, found, behind⟩ := reads n within (followed_of_span blanks comma rfl)
  have skipped : h.skipBlanks = b := by
    rw [behind.skipBlanks, blanks.skipBlanks_span comma rfl]
  have accepted : b.acceptChar? ',' = some e := Cursor.acceptChar?_iff.mpr comma
  simp only [commaSeparated, found, single, Bool.false_eq_true, if_false, skipped, accepted, later]

theorem reads_none : Reads (.items place [] false) c c := fun _ _ _ _ _ _ ended =>
  ⟨c.skipBlanks, commaSeparated_ended ended, (c.skipBlanks_spec.1).skipBlanks⟩

theorem reads_one (passes : c.Passes d) (reads : Reads (.item place form) c d) :
    Reads (.items place [form] false) c d := by
  intro n limit hasRest within enough counted ended
  have nonempty := passes.length_lt
  have visible := reads.item_visible ended.followed
  rw [visible] at enough ⊢
  obtain ⟨limit, rfl⟩ : ∃ l, limit = l + 1 := ⟨limit - 1, by omega⟩
  obtain ⟨e, found, behind⟩ := reads n within ended.followed
  have noComma : d.skipBlanks.acceptChar? ',' = none := by
    refine Cursor.acceptChar?_eq_none (startsWith_false fun b head => ?_)
    have closer := ended b head
    rw [beq_eq_false_iff_ne]
    rintro rfl
    cases closer
  refine ⟨d.skipBlanks, ?_, d.skipBlanks_spec.1.skipBlanks⟩
  simp only [commaSeparated, found, (single_of_count counted).1, Bool.false_eq_true, if_false,
    behind.skipBlanks, noComma]
  rfl

theorem reads_trailing (passes : c.Passes a) (reads : Reads (.item place form) c a)
    (blanks : Blanks a b) (comma : b.Spans (Text.ofString ",") d) :
    Reads (.items place [form] true) c d := by
  intro n limit hasRest within enough counted ended
  have nonempty := passes.length_lt
  rw [reads.item_visible (followed_of_span blanks comma rfl)] at enough ⊢
  obtain ⟨limit, rfl⟩ : ∃ l, limit = l + 1 := ⟨limit - 1, by omega⟩
  exact ⟨d.skipBlanks, commaSeparated_more reads blanks comma within (single_of_count counted).1
    (commaSeparated_ended ended), d.skipBlanks_spec.1.skipBlanks⟩

theorem reads_more {next : Form} (passes : c.Passes a) (reads : Reads (.item place form) c a)
    (before : Blanks a b) (comma : b.Spans (Text.ofString ",") e) (after : Blanks e f)
    (readsOthers : Reads (.items place (next :: forms) trailing) f d) :
    Reads (.items place (form :: next :: forms) trailing) c d := by
  intro n limit hasRest within enough counted ended
  have shorter := passes.length_lt
  have bounds := And.intro before.length_le (And.intro comma.length_le after.length_le)
  have skippedLength := f.skipBlanks_spec.1.length_le
  rw [reads.item_visible (followed_of_span before comma rfl)] at enough ⊢
  obtain ⟨limit, rfl⟩ : ∃ l, limit = l + 1 := ⟨limit - 1, by omega⟩
  obtain ⟨single, countedOthers⟩ := single_of_count counted
  obtain ⟨g, later, reached⟩ := readsOthers n limit _ (by omega) (by omega) countedOthers ended
  rw [after.skipBlanks] at later
  exact ⟨g, commaSeparated_more reads before comma within single later, reached⟩

theorem reads_enclosed {opening closing : Char} (opens : c.Spans [opening.toNat] a)
    (before : Blanks a b) (reads : Reads (.items place forms trailing) b e) (after : Blanks e f)
    (closes : f.Spans [closing.toNat] d) (rests : AtMostOneRest forms) :
    Reads (.enclosed opening closing place forms trailing) c d := by
  intro n within closer
  have shorter := opens.length_lt (by simp)
  have bound := before.length_le
  have follower : isFollower closing.toNat = true := by rw [isFollower, closer, Bool.or_true]
  have visible := isFollower_not_blank follower
  have skipped : e.skipBlanks = f := after.skipBlanks_span closes visible
  have ended : Ended e := by
    intro x head
    rw [skipped, closes.head] at head
    cases head
    exact closer
  obtain ⟨g, found, reached⟩ := reads n b.skipBlanks.buffer.length false (by omega) (by omega)
    (by simpa [AtMostOneRest] using rests) ended
  have behind : Blanks g f := by
    rw [← skipped, ← reached]
    exact g.skipBlanks_spec.1
  rw [before.skipBlanks] at found
  exact bracketed_some opens found behind closes visible

end Lists

/-- Every derivation is read. -/
theorem Spells.reads {part : Part} {c d : Cursor} (derived : Spells part c d) : Reads part c d := by
  induction derived with
  | wildcard span => exact reads_wildcard span
  | null word => exact reads_null word
  | undefined word => exact reads_undefined word
  | boolean value word => exact reads_boolean word
  | number read span => exact reads_number read
  | string read => exact reads_string read
  | identifier captured => exact reads_identifier captured
  | binder captured bound structured _ ih => exact reads_binder captured bound structured ih
  | array inside ih => exact reads_array ih inside.enclosed_head
  | object inside ih => exact reads_object ih inside.enclosed_head
  | tag named => exact reads_tag named
  | tagArray named inside ih => exact reads_tagArray named inside.enclosed_head ih
  | tagObject named _ ih => exact reads_tagObject named ih
  | extractor dollar named => exact reads_extractor dollar named
  | extractorEmpty dollar named opens blanks closes =>
    exact reads_extractorEmpty dollar named opens blanks closes
  | extractorOf dollar named opens before inside after closes ih =>
    exact reads_extractorOf dollar named opens before inside.extent ih after closes
  | element inside ih => exact reads_element inside.extent ih
  | dots dots => exact reads_dots dots
  | rest dots inside fits ih => exact reads_rest dots inside.extent ih fits
  | namedRest captured dots => exact reads_namedRest captured dots
  | key named => exact reads_key named
  | keyValue named before colon after inside ih =>
    exact reads_keyValue named before colon after inside.extent ih
  | none => exact reads_none
  | one inside ih => exact reads_one inside.extent ih
  | trailing inside blanks comma ih => exact reads_trailing inside.extent ih blanks comma
  | more inside before comma after _ ih ihOthers =>
    exact reads_more inside.extent ih before comma after ihOthers
  | enclosed opens before _ after closes rests ih =>
    exact reads_enclosed opens before ih after closes rests

/-- What a text derives, it is read as. -/
theorem parse_of_spellsText {text : Text} {forms : List Form} {trailing : Bool}
    (spelled : SpellsText forms trailing text) :
    parse text = .ok (.argumentList (Form.trees forms)) := by
  obtain ⟨a, b, d, before, derived, after, done, rests⟩ := spelled
  have skipped : b.skipBlanks = d := after.skipBlanks_eq (by rw [done]; rfl)
  have ended : Ended b := by
    intro x head
    rw [skipped, done] at head
    cases head
  obtain ⟨e, found, reached⟩ := derived.reads text.length a.skipBlanks.buffer.length false
    before.length_le (Nat.le_refl _) (by simpa [AtMostOneRest] using rests) ended
  have inside : sequenceItems (pattern text.length) (Cursor.start text).skipBlanks =
      .ok (Form.trees forms, e) := by
    rw [← before.skipBlanks]
    exact found
  have last : e.skipBlanks.atEnd = true := by rw [reached, skipped, Cursor.atEnd, done]; rfl
  unfold parse
  dsimp only
  rw [inside]
  simp only [last, if_true]

theorem parse_of_derives {text : Text} {tree : Pattern} (derived : Derives text tree) :
    parse text = .ok tree := by
  obtain ⟨forms, trailing, spelled, rfl⟩ := derived
  exact parse_of_spellsText spelled

/-- A text that is one item is read as that item. -/
theorem parse_of_item {text : Text} {form : Form} {d : Cursor}
    (spells : Spells (.item .sequence form) (Cursor.start text) d) (done : d.buffer = []) :
    parse text = .ok (.argumentList [form.tree]) := by
  have oneRest : AtMostOneRest [form] := List.countP_le_length
  exact parse_of_spellsText
    ⟨_, d, d, Blanks.refl _, .one spells, Blanks.refl d, done, oneRest⟩

/-- A text that is one number is read as that number. -/
theorem parse_number {text : Text} {value : Number} {d : Cursor}
    (read : (Cursor.start text).number = .ok (some value, d)) (done : d.buffer = []) :
    parse text = .ok (.argumentList [.number value]) := by
  obtain ⟨token, -, span⟩ := Cursor.number_some read
  exact parse_of_item (.element (.number read span)) done

end PatternDispatch.Grammar
