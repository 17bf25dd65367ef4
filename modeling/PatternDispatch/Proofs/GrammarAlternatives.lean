import Mathlib.Data.List.Forall2
import PatternDispatch.Proofs.GrammarSoundness

/-!
Which alternative decides. A construct is told by its first character, or for words by the keyword
they begin with, so the alternatives before the one that fits find nothing and leave the cursor
where it is. What follows an item is, behind blanks, a comma, a closing bracket or the end.
-/

namespace PatternDispatch.Grammar

open Character Pattern.Parser

/-! ## First characters -/

def isCloser (b : CodePoint) : Bool := b == ']'.toNat || b == '\x7d'.toNat || b == ')'.toNat

/-- The characters that can follow an item, behind blanks. -/
def isFollower (b : CodePoint) : Bool := b == ','.toNat || isCloser b

/-- The characters that a pattern or an item can begin with. -/
def isOpening (b : CodePoint) : Bool :=
  isNameStart b || Cursor.isNumberStart b || Cursor.isQuote b || b == '['.toNat ||
    b == '\x7b'.toNat

/-- An item can end here. -/
def Followed (d : Cursor) : Prop := ∀ b ∈ d.skipBlanks.buffer.head?, isFollower b = true

/-- A list of items can end here. -/
def Ended (d : Cursor) : Prop := ∀ b ∈ d.skipBlanks.buffer.head?, isCloser b = true

theorem Ended.followed {d : Cursor} (ended : Ended d) : Followed d :=
  fun b first => by rw [isFollower, ended b first, Bool.or_true]

theorem isBlank_not_opening {b : CodePoint} (blank : isBlank b = true) : isOpening b = false := by
  simp only [isBlank, Bool.or_eq_true, Bool.and_eq_true, decide_eq_true_eq, beq_iff_eq] at blank
  simp only [isOpening, isNameStart, isLower, isUpper, Cursor.isNumberStart, isDigit,
    Cursor.isQuote, Bool.or_eq_false_iff, Bool.and_eq_false_iff, decide_eq_false_iff_not,
    beq_eq_false_iff_ne, ne_eq, Char.reduceToNat]
  unfold CodePoint at *
  omega

theorem isFollower_not_opening {b : CodePoint} (follower : isFollower b = true) :
    isOpening b = false := by
  simp only [isFollower, isCloser, Bool.or_eq_true, beq_iff_eq] at follower
  rcases follower with rfl | (rfl | rfl) | rfl <;> rfl

theorem isFollower_not_blank {b : CodePoint} (follower : isFollower b = true) :
    isBlank b = false := by
  simp only [isFollower, isCloser, Bool.or_eq_true, beq_iff_eq] at follower
  rcases follower with rfl | (rfl | rfl) | rfl <;> rfl

section Heads

variable {c d : Cursor} {isFirst : CodePoint → Bool} {b : CodePoint}

theorem startsWith_false (others : ∀ b ∈ c.buffer.head?, isFirst b = false) :
    Token.startsWith isFirst c.buffer = false := by
  rw [Token.startsWith_eq]
  cases same : c.buffer.head? with
  | none => rfl
  | some b => exact others b same

theorem startsWith_of_head (head : c.buffer.head? = some b) :
    Token.startsWith isFirst c.buffer = isFirst b := by
  rw [Token.startsWith_eq, head]
  rfl

/-- Blanks before a character that is no blank are all skipped. -/
theorem Blanks.skipBlanks_span {w : Text} (blanks : Blanks c d) {e : Cursor}
    (span : d.Spans (b :: w) e) (visible : isBlank b = false) : c.skipBlanks = d :=
  blanks.skipBlanks_eq (by rw [startsWith_of_head span.head, visible])

/-- At the end of an item stands a blank, a comma, a closing bracket or nothing. -/
theorem Followed.head (followed : Followed d) (head : d.buffer.head? = some b) :
    isBlank b = true ∨ isFollower b = true := by
  cases blank : isBlank b with
  | true => exact .inl rfl
  | false =>
    refine .inr (followed b ?_)
    rwa [Cursor.skipBlanks_of_not_blank (by rw [startsWith_of_head head, blank])]

theorem Followed.not_opening (followed : Followed d) :
    Token.startsWith isOpening d.buffer = false :=
  startsWith_false fun _ head =>
    (followed.head head).elim isBlank_not_opening isFollower_not_opening

/-- A character that neither blanks nor the end of an item can be. -/
theorem Followed.not_head (followed : Followed d) (visible : isBlank b = false)
    (goesOn : isFollower b = false) : Token.startsWith (· == b) d.buffer = false :=
  startsWith_false fun e head => by
    rw [beq_eq_false_iff_ne]
    rintro rfl
    rcases followed.head head with blank | follower
    · rw [visible] at blank; cases blank
    · rw [goesOn] at follower; cases follower

theorem followed_of_span {e : Cursor} {w : Text} (blanks : Blanks c d)
    (span : d.Spans (b :: w) e) (follower : isFollower b = true) : Followed c := by
  intro x head
  rw [blanks.skipBlanks_span span (isFollower_not_blank follower), span.head] at head
  cases head
  exact follower

theorem Name.head {n : Text} (name : Name isFirst n c d) :
    ∃ b, c.buffer.head? = some b ∧ isFirst b = true := by
  obtain ⟨span, ⟨b, bs, rfl, first, -⟩, -⟩ := name
  exact ⟨b, span.head, first⟩

end Heads

/-! ## Readers that find nothing -/

section Silent

variable {α : Type} {pattern : Reader Pattern} {c : Cursor}

theorem wildcard_silent (other : Token.startsWith (· == '_'.toNat) c.buffer = false) :
    wildcard c = .ok (none, c) := by
  rw [wildcard, Cursor.acceptChar?_eq_none other]

theorem building_silent {reader : Reader α} {make : α → Pattern}
    (silent : reader c = .ok (none, c)) : building reader make c = .ok (none, c) := by
  rw [building, silent]
  rfl

theorem word_silent {token : Token} {make : Text → Pattern} (absent : c.lex? token = none) :
    building (lexeme token) make c = .ok (none, c) :=
  building_silent (by rw [lexeme, absent])

theorem bracketed_silent {opening closing : Char} {inner : Cursor → Except ParseError (α × Cursor)}
    (other : Token.startsWith (· == opening.toNat) c.buffer = false) :
    bracketed opening closing inner c = .ok (none, c) := by
  rw [bracketed, Cursor.acceptChar?_eq_none other]

theorem lex?_name_none (token : Token) {isFirst : CodePoint → Bool}
    (rule : ∀ t, token.match? t = (Token.name isFirst t).map Token.whole)
    (other : Token.startsWith isFirst c.buffer = false) : c.lex? token = none := by
  rw [Cursor.lex?_eq_none_iff, rule, Token.name_eq_none other]
  rfl

theorem classPattern_silent (other : Token.startsWith isUpper c.buffer = false) :
    classPattern pattern c = .ok (none, c) := by
  rw [classPattern, lex?_name_none _ (fun _ => rfl) other]

theorem extractor_silent (other : Token.startsWith (· == '$'.toNat) c.buffer = false) :
    extractor pattern c = .ok (none, c) := by
  have absent : c.lex? .extractorName = none := by
    rw [Cursor.lex?_eq_none_iff]
    cases same : c.buffer with
    | nil => rfl
    | cons b bs =>
      have different : b ≠ '$'.toNat := by simpa [same, Token.startsWith] using other
      exact if_neg different
  rw [extractor, absent]

theorem array_silent (other : Token.startsWith (· == '['.toNat) c.buffer = false) :
    array pattern c = .ok (none, c) := building_silent (bracketed_silent other)

theorem object_silent (other : Token.startsWith (· == '\x7b'.toNat) c.buffer = false) :
    object pattern c = .ok (none, c) := building_silent (bracketed_silent other)

/-- A keyword is a whole word, so it is not there when no keyword is. -/
theorem keyword_silent (free : ∀ w ∈ Token.keywords, ∀ d, ¬Word w c d) :
    c.lex? .nullWord = none ∧ c.lex? .undefinedWord = none ∧ c.lex? .booleanWord = none := by
  simp only [Token.keywords, List.map_cons, List.map_nil, List.forall_mem_cons, List.not_mem_nil,
    false_implies, implies_true, and_true] at free
  refine ⟨?_, ?_, ?_⟩ <;> refine Option.eq_none_iff_forall_ne_some.mpr fun pair found => ?_
  · exact free.1 pair.2 (lex?_null_iff.mp found).2
  · exact free.2.1 pair.2 (lex?_undefined_iff.mp found).2
  · obtain ⟨value, -, word⟩ := lex?_boolean_iff.mp found
    cases value with
    | true => exact free.2.2.1 pair.2 word
    | false => exact free.2.2.2 pair.2 word

end Silent

/-! ## Which alternative decides -/

section Deciding

variable {α : Type} {pattern : Reader Pattern} {c d : Cursor} {b : CodePoint}

/-- An alternative that answers something decides behind others that find nothing. -/
theorem firstOf_of_silent {before after : List (Reader α)} {reader : Reader α}
    (silent : ∀ r ∈ before, r c = .ok (none, c)) (answers : ∀ d, reader c ≠ .ok (none, d)) :
    firstOf (before ++ reader :: after) c = reader c := by
  induction before with
  | nil => simp only [List.nil_append, firstOf]
  | cons r before ih =>
    simp only [List.cons_append, firstOf, silent r (by simp)]
    exact ih fun r member => silent r (by simp [member])

/-- The characters that each decisive alternative can begin with. -/
def leads : List (CodePoint → Bool) :=
  [(· == '_'.toNat), (· == 'n'.toNat), (· == 'u'.toNat),
    fun b => b == 't'.toNat || b == 'f'.toNat, Cursor.isNumberStart, Cursor.isQuote, isUpper,
    (· == '$'.toNat), (· == '['.toNat), (· == '\x7b'.toNat)]

/-- A reader finds nothing where its construct cannot begin. -/
def Leads (reader : Reader Pattern) (lead : CodePoint → Bool) : Prop :=
  ∀ c : Cursor, Token.startsWith lead c.buffer = false → reader c = .ok (none, c)

theorem decisive_leads (pattern : Reader Pattern) :
    List.Forall₂ Leads (decisive pattern) leads := by
  refine .cons (fun c other => wildcard_silent other) (.cons (fun c other => ?_)
    (.cons (fun c other => ?_) (.cons (fun c other => ?_)
    (.cons (fun c other => building_silent (Cursor.number_of_not_start other))
    (.cons (fun c other => building_silent (Cursor.string_of_not_quote other))
    (.cons (fun c other => classPattern_silent other)
    (.cons (fun c other => extractor_silent other)
    (.cons (fun c other => array_silent other)
    (.cons (fun c other => object_silent other) .nil)))))))))
  · refine word_silent (Option.eq_none_iff_forall_ne_some.mpr fun pair found => ?_)
    rw [startsWith_of_head (lex?_null_iff.mp found).2.1.head] at other
    cases other
  · refine word_silent (Option.eq_none_iff_forall_ne_some.mpr fun pair found => ?_)
    rw [startsWith_of_head (lex?_undefined_iff.mp found).2.1.head] at other
    cases other
  · refine word_silent (Option.eq_none_iff_forall_ne_some.mpr fun pair found => ?_)
    obtain ⟨value, -, span, -⟩ := lex?_boolean_iff.mp found
    cases value <;> rw [startsWith_of_head span.head] at other <;> cases other

theorem silent_of_leads {readers : List (Reader Pattern)} {leads : List (CodePoint → Bool)}
    (each : List.Forall₂ Leads readers leads) (head : c.buffer.head? = some b)
    (others : ∀ lead ∈ leads, lead b = false) : ∀ r ∈ readers, r c = .ok (none, c) := by
  induction each with
  | nil => simp
  | cons first _ ih =>
    simp only [List.forall_mem_cons] at others ⊢
    exact ⟨first c (by rw [startsWith_of_head head]; exact others.1), ih others.2⟩

/-- An alternative decides where no earlier one can begin. -/
theorem patternStep_of_lead (k : Nat) (within : k < (decisive pattern).length)
    (head : c.buffer.head? = some b) (others : ∀ lead ∈ leads.take k, lead b = false)
    (answers : ∀ d, (decisive pattern)[k] c ≠ .ok (none, d)) :
    patternStep pattern c = (decisive pattern)[k] c := by
  have silent := silent_of_leads (List.forall₂_take k (decisive_leads pattern)) head others
  have parts : patternStep pattern = firstOf ((decisive pattern).take k ++
      (decisive pattern)[k] :: ((decisive pattern).drop (k + 1) ++ [identifierOrBinder pattern])) := by
    rw [← List.cons_append, ← List.drop_eq_getElem_cons within, ← List.append_assoc,
      List.take_append_drop]
    rfl
  rw [parts]
  exact firstOf_of_silent silent answers

/-- Where the reader of numbers answers something, no earlier alternative can begin. -/
theorem patternStep_of_number (answers : ∀ d, c.number ≠ .ok (none, d)) :
    patternStep pattern c = building Cursor.number .number c := by
  cases head : c.buffer.head? with
  | none =>
    refine absurd (Cursor.number_of_not_start ?_) (answers c)
    rw [Token.startsWith_eq, head]
    rfl
  | some b =>
    have first : Cursor.isNumberStart b = true := by
      refine Bool.of_not_eq_false fun other => answers c (Cursor.number_of_not_start ?_)
      rw [startsWith_of_head head, other]
    refine patternStep_of_lead 4 (by simp [decisive]) head ?_ fun d nothing =>
      answers d (building_nothing nothing)
    simp only [Cursor.isNumberStart, isDigit, Bool.or_eq_true, Bool.and_eq_true,
      decide_eq_true_eq, beq_iff_eq] at first
    simp only [leads, List.take_succ_cons, List.take_zero, List.forall_mem_cons, List.not_mem_nil,
      false_implies, implies_true, and_true, Bool.or_eq_false_iff, beq_eq_false_iff_ne, ne_eq,
      Char.reduceToNat] at first ⊢
    unfold CodePoint at *
    omega

theorem firstOf_silent {readers : List (Reader α)}
    (silent : ∀ r ∈ readers, r c = .ok (none, c)) : firstOf readers c = .ok (none, c) := by
  induction readers with
  | nil => rfl
  | cons r readers ih =>
    simp only [firstOf, silent r (by simp)]
    exact ih fun r member => silent r (by simp [member])

theorem isLower_other {b : CodePoint} (lower : isLower b = true) :
    (b == '_'.toNat) = false ∧ Cursor.isNumberStart b = false ∧ Cursor.isQuote b = false ∧
      isUpper b = false ∧ (b == '$'.toNat) = false ∧ (b == '['.toNat) = false ∧
      (b == '\x7b'.toNat) = false := by
  simp only [isLower, Bool.and_eq_true, decide_eq_true_eq] at lower
  simp only [isUpper, Cursor.isNumberStart, isDigit, Cursor.isQuote, Bool.or_eq_false_iff,
    Bool.and_eq_false_iff, decide_eq_false_iff_not, beq_eq_false_iff_ne, ne_eq, Char.reduceToNat]
    at lower ⊢
  unfold CodePoint at *
  omega

/-- Where a capture name stands, the last alternative decides. -/
theorem patternStep_of_captureName {n : Text} (name : CaptureName n c d) :
    patternStep pattern c = identifierOrBinder pattern c := by
  obtain ⟨b, head, lower⟩ := name.1.head
  obtain ⟨noWildcard, noNumber, noString, noClass, noExtractor, noArray, noObject⟩ :=
    isLower_other lower
  obtain ⟨noNull, noUndefined, noBoolean⟩ := keyword_silent name.2
  have silent : ∀ r ∈ decisive pattern, r c = .ok (none, c) := by
    simp only [decisive, List.forall_mem_cons, List.not_mem_nil, false_implies, implies_true,
      and_true]
    exact ⟨wildcard_silent (by rw [startsWith_of_head head, noWildcard]), word_silent noNull,
      word_silent noUndefined, word_silent noBoolean,
      building_silent (Cursor.number_of_not_start (by rw [startsWith_of_head head, noNumber])),
      building_silent (Cursor.string_of_not_quote (by rw [startsWith_of_head head, noString])),
      classPattern_silent (by rw [startsWith_of_head head, noClass]),
      extractor_silent (by rw [startsWith_of_head head, noExtractor]),
      array_silent (by rw [startsWith_of_head head, noArray]),
      object_silent (by rw [startsWith_of_head head, noObject])⟩
  rw [patternStep_eq, firstOf_silent silent]

/-- Where no pattern begins, none is found. -/
theorem patternStep_silent (other : Token.startsWith isOpening c.buffer = false) :
    patternStep pattern c = .ok (none, c) := by
  have each : ∀ lead ∈ isLower :: leads, Token.startsWith lead c.buffer = false := by
    intro lead member
    apply startsWith_false
    intro b head
    rw [startsWith_of_head head] at other
    simp only [isOpening, isNameStart, Bool.or_eq_false_iff] at other
    obtain ⟨⟨⟨⟨⟨⟨⟨noWildcard, noExtractor⟩, noLower⟩, noClass⟩, noNumber⟩, noString⟩, noArray⟩,
      noObject⟩ := other
    have letters : ∀ l, isLower l = true → (b == l) = false := by
      intro l lower
      rw [beq_eq_false_iff_ne]
      rintro rfl
      rw [lower] at noLower
      cases noLower
    simp only [leads, List.mem_cons, List.not_mem_nil, or_false] at member
    rcases member with rfl | rfl | rfl | rfl | rfl | rfl | rfl | rfl | rfl | rfl | rfl
    · exact noLower
    · exact noWildcard
    · exact letters _ rfl
    · exact letters _ rfl
    · simp only [letters _ (show isLower 't'.toNat = true from rfl),
        letters _ (show isLower 'f'.toNat = true from rfl), Bool.or_self]
    · exact noNumber
    · exact noString
    · exact noClass
    · exact noExtractor
    · exact noArray
    · exact noObject
  have silent : ∀ r ∈ decisive pattern, r c = .ok (none, c) := by
    intro r member
    obtain ⟨k, within, rfl⟩ := List.getElem_of_mem member
    have led := (decisive_leads pattern).get within (by rwa [← (decisive_leads pattern).length_eq])
    exact led c (each _ (List.mem_cons_of_mem _ (List.get_mem _ _)))
  rw [patternStep_eq, firstOf_silent silent]
  simp only [identifierOrBinder, lex?_name_none .identifier (fun _ => rfl)
    (each isLower (by simp))]

theorem pattern_silent (depth : Nat) (other : Token.startsWith isOpening c.buffer = false) :
    Pattern.Parser.pattern depth c = .ok (none, c) := by
  cases depth with
  | zero => rfl
  | succ depth => exact patternStep_silent other

/-- A rest begins with a capture name or with dots. -/
theorem rest_silent (noName : c.lex? .postfixRest = none) (noDots : c.accept? Token.dots = none) :
    rest pattern c = .ok (none, c) := by
  rw [rest, noName, noDots]

theorem dots_silent (other : Token.startsWith (· == '.'.toNat) c.buffer = false) :
    c.accept? Token.dots = none := by
  refine Cursor.accept?_eq_none_iff.mpr fun begins => ?_
  obtain ⟨r, same⟩ := begins
  rw [← same] at other
  cases other

theorem postfixRest_silent (other : Token.startsWith isLower c.buffer = false) :
    c.lex? .postfixRest = none := by
  apply Option.eq_none_iff_forall_ne_some.mpr
  intro pair found
  obtain ⟨n, a, -, name, -⟩ := lex?_postfixRest_iff.mp found
  obtain ⟨b, head, lower⟩ := name.1.head
  rw [startsWith_of_head head, lower] at other
  cases other

/-- Dots that begin no fraction are no number. -/
theorem number_of_dots (dots : c.Spans Token.dots d) : ∃ e, c.number = .error e := by
  have unsigned : c.sign = (false, c) := by
    rw [Cursor.sign, Cursor.acceptChar?_eq_none (startsWith_of_head dots.head)]
  have noDigits : c.wholeDigits = ([], c) :=
    Cursor.wholeDigits_of_no_digit (startsWith_of_head dots.head)
  obtain ⟨next, point⟩ : ∃ next, c.acceptChar? '.' = some next :=
    ⟨_, Cursor.acceptChar?_iff.mpr (Cursor.Spans.of_buffer dots.buffer)⟩
  have behind : next.buffer = Text.ofString ".." ++ d.buffer :=
    (List.cons.inj ((Cursor.acceptChar?_iff.mp point).buffer.symm.trans dots.buffer)).2
  have noFraction : next.lex? .digits = none := by
    rw [Cursor.lex?_eq_none_iff, behind]
    rfl
  exact ⟨.malformed .expectedDigit next, by
    simp [Cursor.number, Cursor.numeral, Cursor.numeralBehind, unsigned, noDigits,
      Cursor.fraction, point, noFraction]⟩

/-- Where a pattern is found that an item can end behind, no rest begins. -/
theorem rest_silent_of_pattern {other : Reader Pattern} {tree : Pattern}
    (reads : patternStep pattern c = .ok (some tree, d)) (followed : Followed d) :
    rest other c = .ok (none, c) := by
  refine rest_silent ?_ ?_
  · apply Option.eq_none_iff_forall_ne_some.mpr
    intro pair found
    obtain ⟨n, a, -, name, dots⟩ := lex?_postfixRest_iff.mp found
    have unbound : a.acceptChar? '@' = none :=
      Cursor.acceptChar?_eq_none (startsWith_of_head dots.head)
    rw [patternStep_of_captureName name, identifierOrBinder,
      lex?_identifier_iff.mpr ⟨n, rfl, name.1⟩] at reads
    dsimp only at reads
    rw [unbound] at reads
    cases reads
    have wrong := followed.not_head (b := '.'.toNat) rfl rfl
    rw [startsWith_of_head dots.head] at wrong
    cases wrong
  · cases accepted : c.accept? Token.dots with
    | none => rfl
    | some next =>
      have dots := Cursor.accept?_iff.mp accepted
      obtain ⟨e, fails⟩ := number_of_dots dots
      have decided : patternStep pattern c = .error e := by
        rw [patternStep_of_number (by simp [fails]), building, fails]
      cases decided.symm.trans reads

end Deciding

end PatternDispatch.Grammar
