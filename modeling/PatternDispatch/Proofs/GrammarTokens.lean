import PatternDispatch.Proofs.Grammar

/-!
The tokens of the lexer are those of the grammar. Each rule of the lexer answers exactly when the
token stands at the cursor, and skipping blanks goes as far as any run of blanks can.
-/

namespace PatternDispatch

open Character Grammar

namespace Cursor

theorem lex?_blanks_iff {c d : Cursor} {lexeme : Lexeme} :
    c.lex? .blanks = some (lexeme, d) ↔
      ∃ w, lexeme = Token.whole w ∧ w ≠ [] ∧ (∀ b ∈ w, isBlank b = true) ∧ c.Spans w d ∧
        Token.startsWith isBlank d.buffer = false := by
  simp only [lex?_eq_some_iff, Token.match?, Option.map_eq_some_iff, Token.run_iff]
  constructor
  · rintro ⟨⟨w, ⟨nonempty, members, r, same, stop⟩, rfl⟩, rfl⟩
    exact ⟨w, rfl, nonempty, members, Spans.of_buffer same,
      by rw [Token.whole, Spans.buffer_advance same]; exact stop⟩
  · rintro ⟨w, rfl, nonempty, members, span, stop⟩
    exact ⟨⟨w, ⟨nonempty, members, d.buffer, span.buffer, stop⟩, rfl⟩, span.2⟩

theorem skipBlanks_of_not_blank {c : Cursor} (stop : Token.startsWith isBlank c.buffer = false) :
    c.skipBlanks = c := by
  have absent : c.lex? .blanks = none := by
    rw [lex?_eq_none_iff, Token.match?, Token.run_eq_none_iff.mpr stop]
    rfl
  rw [skipBlanks, absent]

/-- Skipping passes over blanks and leaves none. -/
theorem skipBlanks_spec (c : Cursor) :
    Blanks c c.skipBlanks ∧ Token.startsWith isBlank c.skipBlanks.buffer = false := by
  cases found : c.lex? .blanks with
  | none =>
    have stop : Token.startsWith isBlank c.buffer = false := by
      rw [lex?_eq_none_iff, Token.match?, Option.map_eq_none_iff, Token.run_eq_none_iff] at found
      exact found
    rw [skipBlanks_of_not_blank stop]
    exact ⟨⟨[], by simp, Spans.refl c⟩, stop⟩
  | some pair =>
    obtain ⟨lexeme, d⟩ := pair
    have skipped : c.skipBlanks = d := by rw [skipBlanks, found]
    obtain ⟨w, -, -, members, span, stop⟩ := lex?_blanks_iff.mp found
    rw [skipped]
    exact ⟨⟨w, members, span⟩, stop⟩

end Cursor

namespace Grammar

theorem Blanks.refl (c : Cursor) : Blanks c c := ⟨[], by simp, Cursor.Spans.refl c⟩

theorem Blanks.trans {c d e : Cursor} (first : Blanks c d) (second : Blanks d e) : Blanks c e := by
  obtain ⟨v, blankV, spanV⟩ := first
  obtain ⟨w, blankW, spanW⟩ := second
  refine ⟨v ++ w, fun b member => ?_, spanV.trans spanW⟩
  exact (List.mem_append.mp member).elim (blankV b) (blankW b)

theorem Blanks.length_le {c d : Cursor} (blanks : Blanks c d) :
    d.buffer.length ≤ c.buffer.length := by
  obtain ⟨w, -, span⟩ := blanks
  exact span.length_le

/-- Two runs of blanks from one place are the same when neither can go on. -/
theorem Blanks.unique {c d e : Cursor} (first : Blanks c d) (second : Blanks c e)
    (stopD : Token.startsWith isBlank d.buffer = false)
    (stopE : Token.startsWith isBlank e.buffer = false) : d = e := by
  obtain ⟨v, blankV, spanV⟩ := first
  obtain ⟨w, blankW, spanW⟩ := second
  have same : v = w := by
    rw [← Token.takeWhile_append blankV stopD, ← Token.takeWhile_append blankW stopE,
      ← spanV.buffer, ← spanW.buffer]
  subst same
  exact spanV.unique spanW

theorem Blanks.skipBlanks {c d : Cursor} (blanks : Blanks c d) : d.skipBlanks = c.skipBlanks := by
  have later := d.skipBlanks_spec
  have direct := c.skipBlanks_spec
  exact (blanks.trans later.1).unique direct.1 later.2 direct.2

/-- Blanks before anything that is no blank are all skipped. -/
theorem Blanks.skipBlanks_eq {c d : Cursor} (blanks : Blanks c d)
    (stop : Token.startsWith isBlank d.buffer = false) : c.skipBlanks = d := by
  rw [← blanks.skipBlanks, Cursor.skipBlanks_of_not_blank stop]

theorem exists_word_iff {w : Text} {c : Cursor} :
    (∃ d, Word w c d) ↔ Token.word w c.buffer = true := by
  rw [Token.word_iff]
  constructor
  · rintro ⟨d, span, stop⟩
    exact ⟨d.buffer, span.buffer, stop⟩
  · rintro ⟨r, same, stop⟩
    exact ⟨_, Cursor.Spans.of_buffer same, by rw [Cursor.Spans.buffer_advance same]; exact stop⟩

theorem no_keyword_iff {c : Cursor} :
    Token.keywords.any (Token.word · c.buffer) = false ↔
      ∀ w ∈ Token.keywords, ∀ d, ¬Word w c d := by
  simp only [List.any_eq_false, ← exists_word_iff, not_exists]

variable {c d : Cursor} {lexeme : Lexeme} {isFirst : CodePoint → Bool}

/-- A token that is one whole word. -/
theorem lex?_word_iff {token : Token} {w : Text}
    (rule : ∀ t, token.match? t = if Token.word w t then some (Token.whole w) else none) :
    c.lex? token = some (lexeme, d) ↔ lexeme = Token.whole w ∧ Word w c d := by
  simp only [Cursor.lex?_eq_some_iff, rule, Option.ite_none_right_eq_some, Option.some.injEq,
    Token.word_iff]
  constructor
  · rintro ⟨⟨⟨r, same, stop⟩, rfl⟩, rfl⟩
    exact ⟨rfl, Cursor.Spans.of_buffer same,
      by rw [Token.whole, Cursor.Spans.buffer_advance same]; exact stop⟩
  · rintro ⟨rfl, span, stop⟩
    exact ⟨⟨⟨d.buffer, span.buffer, stop⟩, rfl⟩, span.2⟩

theorem lex?_null_iff :
    c.lex? .nullWord = some (lexeme, d) ↔
      lexeme = Token.whole (Text.ofString "null") ∧ Word (Text.ofString "null") c d :=
  lex?_word_iff fun _ => rfl

theorem lex?_undefined_iff :
    c.lex? .undefinedWord = some (lexeme, d) ↔
      lexeme = Token.whole (Text.ofString "undefined") ∧ Word (Text.ofString "undefined") c d :=
  lex?_word_iff fun _ => rfl

/-- A token that is a name of one kind. -/
theorem lex?_name_iff {token : Token}
    (rule : ∀ t, token.match? t = (Token.name isFirst t).map Token.whole) :
    c.lex? token = some (lexeme, d) ↔ ∃ n, lexeme = Token.whole n ∧ Name isFirst n c d := by
  simp only [Cursor.lex?_eq_some_iff, rule, Option.map_eq_some_iff, Token.name_iff]
  constructor
  · rintro ⟨⟨n, ⟨isName, r, same, stop⟩, rfl⟩, rfl⟩
    exact ⟨n, rfl, Cursor.Spans.of_buffer same, isName,
      by rw [Token.whole, Cursor.Spans.buffer_advance same]; exact stop⟩
  · rintro ⟨n, rfl, span, isName, stop⟩
    exact ⟨⟨n, ⟨isName, d.buffer, span.buffer, stop⟩, rfl⟩, span.2⟩

theorem lex?_identifier_iff :
    c.lex? .identifier = some (lexeme, d) ↔ ∃ n, lexeme = Token.whole n ∧ Name isLower n c d :=
  lex?_name_iff fun _ => rfl

theorem lex?_className_iff :
    c.lex? .className = some (lexeme, d) ↔ ∃ n, lexeme = Token.whole n ∧ Name isUpper n c d :=
  lex?_name_iff fun _ => rfl

theorem lex?_key_iff :
    c.lex? .key = some (lexeme, d) ↔ ∃ n, lexeme = Token.whole n ∧ Name isNameStart n c d :=
  lex?_name_iff fun _ => rfl

theorem lex?_extractorName_iff :
    c.lex? .extractorName = some (lexeme, d) ↔
      ∃ n a, lexeme = ⟨'$'.toNat :: n, some n⟩ ∧ c.Spans (Text.ofString "$") a ∧
        Name isNameStart n a d := by
  constructor
  · intro found
    obtain ⟨matched, rfl⟩ := Cursor.lex?_eq_some_iff.mp found
    cases same : c.buffer with
    | nil => rw [same] at matched; cases matched
    | cons first others =>
      rw [same] at matched
      simp only [Token.match?, Option.ite_none_right_eq_some, Option.map_eq_some_iff,
        Token.name_iff] at matched
      obtain ⟨rfl, n, ⟨isName, r, rfl, stop⟩, rfl⟩ := matched
      have dollar : c.Spans (Text.ofString "$") (c.advance 1) := Cursor.Spans.of_buffer same
      have behind : (c.advance 1).buffer = n ++ r := Cursor.Spans.buffer_advance (w := [_]) same
      have name := Cursor.Spans.of_buffer behind
      have reached : (c.advance 1).advance n.length = c.advance (List.length ('$'.toNat :: n)) :=
        (dollar.trans name).2
      refine ⟨n, _, rfl, dollar, ?_⟩
      rw [← reached]
      refine ⟨name, isName, ?_⟩
      rw [Cursor.Spans.buffer_advance behind]
      exact stop
  · rintro ⟨n, a, rfl, dollar, span, isName, stop⟩
    have same : c.buffer = '$'.toNat :: (n ++ d.buffer) := (dollar.trans span).buffer
    refine Cursor.lex?_eq_some_iff.mpr ⟨?_, (dollar.trans span).2⟩
    rw [same]
    simp only [Token.match?, if_true, Token.name_iff.mpr ⟨isName, d.buffer, rfl, stop⟩,
      Option.map_some]

/-- The word for a truth value. -/
abbrev truthWord (value : Bool) : Text := Text.ofString (if value then "true" else "false")

theorem lex?_boolean_iff :
    c.lex? .booleanWord = some (lexeme, d) ↔
      ∃ value, lexeme = ⟨truthWord value, some (truthWord value)⟩ ∧ Word (truthWord value) c d := by
  constructor
  · intro found
    obtain ⟨matched, rfl⟩ := Cursor.lex?_eq_some_iff.mp found
    have spelled : ∃ value, lexeme = ⟨truthWord value, some (truthWord value)⟩ ∧
        Token.word (truthWord value) c.buffer = true := by
      simp only [Token.match?] at matched
      split at matched
      · next yes => exact ⟨true, (Option.some.inj matched).symm, yes⟩
      · split at matched
        · next no => exact ⟨false, (Option.some.inj matched).symm, no⟩
        · cases matched
    obtain ⟨value, rfl, isWord⟩ := spelled
    obtain ⟨r, same, stop⟩ := Token.word_iff.mp isWord
    exact ⟨value, rfl, Cursor.Spans.of_buffer same,
      by rw [Cursor.Spans.buffer_advance same]; exact stop⟩
  · rintro ⟨value, rfl, span, stop⟩
    refine Cursor.lex?_eq_some_iff.mpr ⟨?_, span.2⟩
    have isWord := exists_word_iff.mp ⟨d, span, stop⟩
    cases value with
    | true => exact if_pos isWord
    | false =>
      -- The two words differ in their first letter, so at most one of them is there.
      have notTrue : Token.word (Text.ofString "true") c.buffer = false := by
        rw [span.buffer]
        rfl
      simp only [Token.match?, notTrue, Bool.false_eq_true, if_false]
      exact if_pos isWord

theorem lex?_postfixRest_iff :
    c.lex? .postfixRest = some (lexeme, d) ↔
      ∃ n a, lexeme = ⟨n ++ Token.dots, some n⟩ ∧ CaptureName n c a ∧ a.Spans Token.dots d := by
  constructor
  · intro found
    obtain ⟨matched, rfl⟩ := Cursor.lex?_eq_some_iff.mp found
    simp only [Token.match?] at matched
    split at matched
    · cases matched
    · next noKeyword =>
      have free := no_keyword_iff.mp (Bool.eq_false_iff.mpr noKeyword)
      split at matched
      · cases matched
      · next n named =>
        obtain ⟨isName, r, same, stop⟩ := Token.name_iff.mp named
        rw [same, List.drop_left, Option.ite_none_right_eq_some] at matched
        obtain ⟨dotted, taken⟩ := matched
        obtain ⟨s, rfl⟩ := List.isPrefixOf_iff_prefix.mp dotted
        obtain rfl := Option.some.inj taken
        have name := Cursor.Spans.of_buffer same
        have behind : (c.advance n.length).buffer = Token.dots ++ s :=
          Cursor.Spans.buffer_advance same
        have dots := Cursor.Spans.of_buffer behind
        refine ⟨n, _, rfl, ⟨⟨name, isName, by rw [behind]; exact stop⟩, free⟩, ?_⟩
        rw [← (name.trans dots).2]
        exact dots
  · rintro ⟨n, a, rfl, ⟨⟨span, isName, stop⟩, free⟩, dots⟩
    have same : c.buffer = n ++ (Token.dots ++ d.buffer) := by
      rw [(span.trans dots).buffer, List.append_assoc]
    have named : Token.name isLower c.buffer = some n :=
      Token.name_iff.mpr ⟨isName, a.buffer, span.buffer, stop⟩
    refine Cursor.lex?_eq_some_iff.mpr ⟨?_, (span.trans dots).2⟩
    simp only [Token.match?, no_keyword_iff.mpr free, Bool.false_eq_true, if_false, named]
    rw [if_pos]
    rw [same, List.drop_left, List.isPrefixOf_iff_prefix]
    exact List.prefix_append _ _

end Grammar

end PatternDispatch
