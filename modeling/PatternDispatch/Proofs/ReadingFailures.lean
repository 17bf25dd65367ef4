import PatternDispatch.Proofs.CacheInvariant
import PatternDispatch.Proofs.GrammarCompleteness

/-!
How reading a text fails. An error is about a place of the text behind the place where the reader
began: malformed text stands there, or the digits of an integer token end there which are too many.
Compiling answers the first kind as a value and passes the second one on.
-/

namespace PatternDispatch

open Character

theorem Number.signed_append (negative : Bool) (t u : Text) :
    signed negative t ++ u = signed negative (t ++ u) := by cases negative <;> rfl

namespace Cursor

variable {c d : Cursor}

/-! ## Integer tokens beyond the limit -/

/-- The text from `c` to `d` is an integer token with more digits than are read. -/
def LongInteger (c : Cursor) (count : Nat) (d : Cursor) : Prop :=
  ∃ negative digits, Numeral.IsWhole digits ∧ digits.length = count ∧ Numeral.digitLimit < count ∧
    c.Spans (Number.signed negative digits) d ∧ Token.startsWith Numeral.goesOn d.buffer = false

theorem sign_spans (c : Cursor) : c.Spans (Number.signed c.sign.1 []) c.sign.2 := by
  unfold sign
  split
  · exact Spans.refl c
  · next accepted => exact acceptChar?_iff.mp accepted

/-- A sign and the digits behind it. -/
theorem front_spans (c : Cursor) :
    c.Spans (Number.signed c.sign.1 c.sign.2.wholeDigits.1) c.sign.2.wholeDigits.2 := by
  rw [← List.nil_append c.sign.2.wholeDigits.1, ← Number.signed_append]
  exact (sign_spans c).trans (wholeDigits_spans c.sign.2)

/-- Digits before a point are all there are or one zero. -/
theorem wholeDigits_spec (c : Cursor) :
    c.wholeDigits = ([], c) ∧ Token.startsWith isDigit c.buffer = false ∨
      Numeral.IsWhole c.wholeDigits.1 ∧
        (c.wholeDigits.1 = ['0'.toNat] ∨
          Token.startsWith isDigit c.wholeDigits.2.buffer = false) := by
  cases found : c.lex? .integer with
  | none =>
    refine .inl ⟨by rw [wholeDigits, found], ?_⟩
    cases same : c.buffer with
    | nil => rfl
    | cons b bs =>
      rw [lex?_eq_none_iff, same] at found
      simp only [Token.match?] at found
      split at found
      · cases found
      · split at found
        · cases found
        · next noDigit => exact Bool.eq_false_iff.mpr noDigit
  | some pair =>
    obtain ⟨lexeme, d⟩ := pair
    have read : c.wholeDigits = (lexeme.text, d) := by rw [wholeDigits, found]
    have span := (lex?_spans found).2
    have matched := (lex?_eq_some_iff.mp found).1
    rw [read]
    refine .inr ?_
    cases same : c.buffer with
    | nil => rw [same] at matched; cases matched
    | cons b bs =>
      rw [same] at matched
      simp only [Token.match?] at matched
      split at matched
      · next zero =>
        cases matched
        subst zero
        exact ⟨⟨⟨by simp [Token.whole], by simp [Token.whole, isDigit]⟩, fun _ => rfl⟩, .inl rfl⟩
      · next notZero =>
        split at matched
        · next first =>
          cases matched
          obtain ⟨r, whole, digits, stop⟩ := Token.exists_takeWhile isDigit bs
          have behind : d.buffer = r := List.append_cancel_left
            (span.buffer.symm.trans (same.trans (congrArg (b :: ·) whole)))
          refine ⟨⟨⟨by simp [Token.whole], ?_⟩, fun zero => absurd (Option.some.inj zero) notZero⟩,
            .inr (by rw [behind]; exact stop)⟩
          exact List.forall_mem_cons.mpr ⟨first, digits⟩
        · cases matched

/-- Several digits before a point are all there are, and no zero begins them. -/
theorem wholeDigits_isWhole (several : 1 < c.wholeDigits.1.length) :
    Numeral.IsWhole c.wholeDigits.1 ∧
      Token.startsWith isDigit c.wholeDigits.2.buffer = false := by
  obtain ⟨none, -⟩ | ⟨isWhole, zero | stop⟩ := wholeDigits_spec c
  · simp [none] at several
  · simp [zero] at several
  · exact ⟨isWhole, stop⟩

theorem fraction_absent (nothing : c.fraction = .ok (none, d)) :
    Token.startsWith (· == '.'.toNat) c.buffer = false := by
  unfold fraction at nothing
  split at nothing
  · next absent => exact acceptChar?_none absent
  · split at nothing <;> cases nothing

theorem exponent_absent (nothing : c.exponent = .ok (none, d)) :
    d = c ∧ Token.startsWith (fun b => b == 'e'.toNat || b == 'E'.toNat) c.buffer = false := by
  unfold exponent at nothing
  split at nothing
  · next absent =>
    cases nothing
    refine ⟨rfl, ?_⟩
    cases same : c.buffer with
    | nil => rfl
    | cons b bs =>
      rw [lex?_eq_none_iff, same] at absent
      refine Bool.eq_false_iff.mpr fun marked => ?_
      have mark : b = 'e'.toNat ∨ b = 'E'.toNat := by
        simpa only [Token.startsWith, Bool.or_eq_true, beq_iff_eq] using marked
      simp only [Token.match?, if_pos mark] at absent
      split at absent
      · cases absent
      · split at absent <;> cases absent
  · split at nothing <;> cases nothing

/-- A numeral of digits alone is what stands in the text, and nothing behind it would go on. -/
theorem numeral_integer {n : Numeral} (read : c.numeral = .ok (some n, d))
    (several : 1 < n.whole.length) (noFraction : n.fraction = none)
    (noExponent : n.exponent = none) :
    Numeral.IsWhole n.whole ∧ c.Spans (Number.signed n.negative n.whole) d ∧
      Token.startsWith Numeral.goesOn d.buffer = false := by
  have course := numeral_course c
  rw [read] at course
  cases course with
  | found present readFraction readExponent =>
    dsimp only at several noFraction noExponent ⊢
    subst noFraction noExponent
    obtain rfl := fraction_none readFraction
    obtain ⟨rfl, noMark⟩ := exponent_absent readExponent
    have noPoint := fraction_absent readFraction
    obtain ⟨isWhole, noDigit⟩ := wholeDigits_isWhole several
    refine ⟨isWhole, front_spans c, ?_⟩
    cases same : c.sign.2.wholeDigits.2.buffer with
    | nil => rfl
    | cons b bs =>
      rw [same] at noDigit noPoint noMark
      simp only [Token.startsWith, Bool.or_eq_false_iff] at noDigit noPoint noMark
      simp only [Token.startsWith, Numeral.goesOn, noDigit, noPoint, noMark, Bool.or_self]

/-- A token that is not read for its length is a long integer. -/
theorem longInteger_of_read {n : Numeral} {count : Nat} (read : c.numeral = .ok (some n, d))
    (tooLong : n.read = .error count) : c.LongInteger count d := by
  unfold Numeral.read at tooLong
  split at tooLong
  · next bare =>
    split at tooLong
    · next above =>
      cases tooLong
      have several : 1 < n.whole.length := lt_trans (by decide) above
      obtain ⟨isWhole, span, stop⟩ := numeral_integer read several bare.1 bare.2
      exact ⟨n.negative, n.whole, isWhole, rfl, above, span, stop⟩
    · cases tooLong
  · cases tooLong

/-- A long integer is not read. -/
theorem LongInteger.number {count : Nat} (long : c.LongInteger count d) :
    c.number = .error (.integerTooLong count d) := by
  obtain ⟨negative, digits, isWhole, rfl, above, span, stop⟩ := long
  have written : (⟨negative, digits, none, none⟩ : Numeral).Written := ⟨isWhole, nofun, nofun⟩
  have spelled : (⟨negative, digits, none, none⟩ : Numeral).text false =
      Number.signed negative digits := by
    simp [Numeral.text, Numeral.unsignedText, Numeral.fractionText, Numeral.exponentText]
  have read := numeral_text written (spelled ▸ span.buffer) stop
  rw [spelled, ← span.2] at read
  have tooLong : (⟨negative, digits, none, none⟩ : Numeral).read = .error digits.length := by
    rw [Numeral.read, if_pos ⟨rfl, rfl⟩, if_pos above]
  rw [Cursor.number, read]
  simp only [tooLong]

/-- A long integer begins with a minus or a digit. -/
theorem LongInteger.head {count : Nat} (long : c.LongInteger count d) :
    ∃ b, c.buffer.head? = some b ∧ (b = '-'.toNat ∨ isDigit b = true) := by
  obtain ⟨negative, digits, isWhole, -, -, span, -⟩ := long
  cases negative with
  | true => exact ⟨_, span.head, .inl rfl⟩
  | false =>
    obtain ⟨b, head, digit⟩ := isWhole.1.head d.buffer
    exact ⟨b, (congrArg List.head? span.buffer).trans head, .inr digit⟩

theorem longInteger_ones {count : Nat} (above : Numeral.digitLimit < count) :
    (start (List.replicate count '1'.toNat)).LongInteger count
      ((start (List.replicate count '1'.toNat)).advance count) := by
  have isDigits : ∀ b ∈ List.replicate count '1'.toNat, isDigit b = true := fun b member => by
    rw [List.eq_of_mem_replicate member]
    rfl
  have nonempty : count ≠ 0 := Nat.ne_of_gt (Nat.zero_lt_of_lt above)
  refine ⟨false, _, ⟨⟨by simpa using nonempty, isDigits⟩, ?_⟩, List.length_replicate, above,
    ⟨⟨[], List.append_nil _⟩, by simp [Number.signed]⟩, by simp [start, advance, Token.startsWith]⟩
  rw [List.head?_replicate, if_neg nonempty]
  exact fun zero => absurd (Option.some.inj zero) (by decide)

end Cursor

/-! ## Readings that go on in the text -/

/-- An error about the text behind a place. -/
def ParseError.Behind (c : Cursor) : ParseError → Prop
  | .malformed _ d => c.Reaches d
  | .integerTooLong count d => ∃ a, c.Reaches a ∧ a.LongInteger count d

theorem ParseError.Behind.of_reaches {c d : Cursor} {e : ParseError} (behind : e.Behind d)
    (reaches : c.Reaches d) : e.Behind c := by
  cases e with
  | malformed reason place => exact reaches.trans behind
  | integerTooLong count place =>
    obtain ⟨a, reached, long⟩ := behind
    exact ⟨a, reaches.trans reached, long⟩

/-- What is read from a place on ends behind it or fails behind it. -/
def Cursor.Onward {α : Type} (c : Cursor) : Except ParseError (α × Cursor) → Prop
  | .ok (_, d) => c.Reaches d
  | .error e => e.Behind c

namespace Cursor

section Onward

variable {α : Type} {c d : Cursor} {reading : Except ParseError (α × Cursor)} {a : α}
  {e : ParseError}

theorem Onward.of_reaches (onward : d.Onward reading) (reaches : c.Reaches d) :
    c.Onward reading := by
  cases reading with
  | error e => exact ParseError.Behind.of_reaches onward reaches
  | ok pair => exact reaches.trans onward

theorem Onward.ok (onward : c.Onward reading) (read : reading = .ok (a, d)) : c.Reaches d := by
  rw [read] at onward
  exact onward

theorem Onward.error (onward : c.Onward reading) (failed : reading = .error e) : e.Behind c := by
  rw [failed] at onward
  exact onward

end Onward

variable {c d : Cursor}

theorem accept?_reaches {w : Text} (accepted : c.accept? w = some d) : c.Reaches d :=
  ⟨w, accept?_iff.mp accepted⟩

theorem skipBlanks_reaches (c : Cursor) : c.Reaches c.skipBlanks := (skipBlanks_spec c).1.reaches

/-- Putting back all that was read since a place leads back to it. -/
theorem rewindTo_eq (reaches : c.Reaches d) : d.rewindTo c.buffer = c := by
  obtain ⟨w, ⟨r, same⟩, rfl⟩ := reaches
  obtain ⟨source, buffer, position⟩ := c
  dsimp only at same
  subst same
  simp [rewindTo, put, advance]

/-! ## Literals -/

theorem quotedBy_onward (quote : Char) (plain : Token) (c : Cursor) :
    c.Onward (c.quotedBy quote plain) := by
  unfold quotedBy
  split
  · exact Reaches.refl c
  · next opened opens =>
    have body := (acceptChar?_passes opens).reaches.trans
      (stringBody_reaches plain opened.buffer.length opened)
    dsimp only
    split
    · exact body
    · next closed closes => exact body.trans (acceptChar?_passes closes).reaches

theorem string_onward (c : Cursor) : c.Onward c.string := by
  have double := quotedBy_onward '"' .doubleQuoted c
  unfold string
  split
  · next next absent =>
    exact (quotedBy_onward '\'' .singleQuoted next).of_reaches (double.ok absent)
  · exact double

theorem fraction_onward (c : Cursor) : c.Onward c.fraction := by
  unfold fraction
  split
  · exact Reaches.refl c
  · next next accepted =>
    have point := (acceptChar?_passes accepted).reaches
    split
    · exact point
    · next lexed => exact point.trans (lex?_passes lexed).reaches

theorem exponent_onward (c : Cursor) : c.Onward c.exponent := by
  unfold exponent
  split
  · exact Reaches.refl c
  · next next marked =>
    have mark := (lex?_passes marked).reaches
    split
    · exact mark
    · next lexed => exact mark.trans (lex?_passes lexed).reaches

theorem numeral_onward (c : Cursor) : c.Onward c.numeral := by
  have start := (sign_reaches c).trans ⟨_, wholeDigits_spans c.sign.2⟩
  have behindDigits := (fraction_onward c.sign.2.wholeDigits.2).of_reaches start
  have course := numeral_course c
  generalize c.numeral = reading at course ⊢
  cases course with
  | badFraction failed => exact behindDigits.error failed
  | lone minus noDigits noFraction => exact behindDigits.ok noFraction
  | absent unsigned noDigits noFraction => exact Reaches.refl c
  | badExponent present readFraction failed =>
    exact ((exponent_onward _).of_reaches (behindDigits.ok readFraction)).error failed
  | found present readFraction readExponent =>
    exact ((exponent_onward _).of_reaches (behindDigits.ok readFraction)).ok readExponent

theorem number_onward (c : Cursor) : c.Onward c.number := by
  have parts := numeral_onward c
  unfold number
  split
  · next failed => exact parts.error failed
  · next read => exact parts.ok read
  · next n next read =>
    have reached := parts.ok read
    split
    · next count tooLong =>
      exact ⟨c, Reaches.refl c, longInteger_of_read read tooLong⟩
    · exact reached

end Cursor

/-! ## Readers of patterns -/

namespace Pattern.Parser

open Cursor

/-- A reader stays in the text: wherever it begins, it ends or fails behind. -/
def Stays {α : Type} (reader : Cursor → Except ParseError (α × Cursor)) : Prop :=
  ∀ c : Cursor, c.Onward (reader c)

section Parts

variable {α : Type}

theorem firstOf_stays {readers : List (Reader α)} (each : ∀ reader ∈ readers, Stays reader) :
    Stays (firstOf readers) := by
  intro c
  induction readers generalizing c with
  | nil => exact Reaches.refl c
  | cons reader readers ih =>
    obtain ⟨first, others⟩ := List.forall_mem_cons.mp each
    have front := first c
    simp only [firstOf]
    split
    · next next nothing => exact (ih others next).of_reaches (front.ok nothing)
    · exact front

theorem lexeme_stays (token : Token) : Stays (lexeme token) := by
  intro c
  unfold lexeme
  split
  · exact Reaches.refl c
  · next lexed => exact (lex?_passes lexed).reaches

theorem building_stays {reader : Reader α} (make : α → Pattern) (stays : Stays reader) :
    Stays (building reader make) := by
  intro c
  have made := stays c
  unfold building
  split
  · next failed => exact made.error failed
  · next read => exact made.ok read

theorem wildcard_stays : Stays wildcard := by
  intro c
  unfold wildcard
  split
  · exact Reaches.refl c
  · next accepted => exact (acceptChar?_passes accepted).reaches

theorem bracketed_stays (opening closing : Char)
    {inner : Cursor → Except ParseError (α × Cursor)} (stays : Stays inner) :
    Stays (bracketed opening closing inner) := by
  intro c
  unfold bracketed
  split
  · exact Reaches.refl c
  · next opened opens =>
    have inside := (stays opened.skipBlanks).of_reaches
      ((acceptChar?_passes opens).reaches.trans (skipBlanks_reaches opened))
    split
    · next failed => exact inside.error failed
    · next found next read =>
      have reached := (inside.ok read).trans (skipBlanks_reaches next)
      split
      · exact reached
      · next closed closes => exact reached.trans (acceptChar?_passes closes).reaches

/-- A second rest is an error where it begins. -/
theorem commaSeparated_stays {item : Reader Pattern} (stays : Stays item) (limit : Nat)
    (hasRest : Bool) : Stays (commaSeparated item limit hasRest) := by
  intro c
  induction limit generalizing hasRest c with
  | zero => exact Reaches.refl c
  | succ limit ih =>
    have front := stays c
    unfold commaSeparated
    split
    · next failed => exact front.error failed
    · next nothing => exact front.ok nothing
    · next first next read =>
      have reached := front.ok read
      split
      · rw [rewindTo_eq reached]
        exact Reaches.refl c
      · have blanks := reached.trans (skipBlanks_reaches next)
        split
        · exact blanks
        · next behind comma =>
          have others := (ih (hasRest || first.isRest) behind.skipBlanks).of_reaches
            ((blanks.trans (acceptChar?_passes comma).reaches).trans (skipBlanks_reaches behind))
          split
          · next failed => exact others.error failed
          · next read => exact others.ok read

theorem items_stays {item : Reader Pattern} (stays : Stays item) : Stays (items item) :=
  fun c => commaSeparated_stays stays c.buffer.length false c

end Parts

section Nested

variable {pattern : Reader Pattern} (stays : Stays pattern)

include stays

theorem rest_stays : Stays (rest pattern) := by
  intro c
  unfold rest
  split
  · next lexed => exact (lex?_passes lexed).reaches
  · split
    · exact Reaches.refl c
    · next next accepted =>
      have inside := (stays next).of_reaches (accept?_reaches accepted)
      split
      · next failed => exact inside.error failed
      · next read => exact inside.ok read

theorem sequenceItems_stays : Stays (sequenceItems pattern) :=
  items_stays (firstOf_stays (List.forall_mem_cons.mpr
    ⟨rest_stays stays, List.forall_mem_singleton.mpr stays⟩))

theorem array_stays : Stays (array pattern) :=
  building_stays .array (bracketed_stays '[' ']' (sequenceItems_stays stays))

omit stays in
theorem key_stays : Stays key :=
  firstOf_stays (List.forall_mem_cons.mpr
    ⟨string_onward, List.forall_mem_singleton.mpr (lexeme_stays .key)⟩)

/-- A rest that an object cannot have is an error where it begins. -/
theorem fieldRest_stays : Stays (fieldRest pattern) := by
  intro c
  have found := rest_stays stays c
  unfold fieldRest
  split
  · next read => exact found.ok read
  · next read => exact found.ok read
  · next read =>
    rw [rewindTo_eq (found.ok read)]
    exact Reaches.refl c
  · exact found

theorem keyed_stays : Stays (keyed pattern) := by
  intro c
  have named := key_stays c
  unfold keyed
  split
  · next failed => exact named.error failed
  · next nothing => exact named.ok nothing
  · next name next read =>
    have reached := (named.ok read).trans (skipBlanks_reaches next)
    split
    · exact reached
    · next behind colon =>
      have inside := (stays behind.skipBlanks).of_reaches
        ((reached.trans (acceptChar?_passes colon).reaches).trans (skipBlanks_reaches behind))
      split
      · next failed => exact inside.error failed
      · next nothing => exact inside.ok nothing
      · next read => exact inside.ok read

theorem fields_stays : Stays (fields pattern) :=
  items_stays (firstOf_stays (List.forall_mem_cons.mpr
    ⟨fieldRest_stays stays, List.forall_mem_singleton.mpr (keyed_stays stays)⟩))

theorem object_stays : Stays (object pattern) :=
  building_stays .object (bracketed_stays '\x7b' '\x7d' (fields_stays stays))

theorem classPattern_stays : Stays (classPattern pattern) := by
  intro c
  unfold classPattern
  split
  · exact Reaches.refl c
  · next name next lexed =>
    refine (firstOf_stays ?_ next).of_reaches (lex?_passes lexed).reaches
    simp only [List.forall_mem_cons, List.not_mem_nil, false_implies, implies_true, and_true]
    exact ⟨building_stays _ (bracketed_stays '\x7b' '\x7d' (fields_stays stays)),
      building_stays _ (bracketed_stays '(' ')' (sequenceItems_stays stays)), Reaches.refl⟩

theorem extractor_stays : Stays (extractor pattern) := by
  intro c
  unfold extractor
  split
  · exact Reaches.refl c
  · next name next lexed =>
    have inside := (bracketed_stays '(' ')' stays next).of_reaches (lex?_passes lexed).reaches
    split
    · next failed => exact inside.error failed
    · next read => exact inside.ok read
    · next read => exact inside.ok read

theorem identifierOrBinder_stays : Stays (identifierOrBinder pattern) := by
  intro c
  unfold identifierOrBinder
  split
  · exact Reaches.refl c
  · next name next lexed =>
    have named := (lex?_passes lexed).reaches
    split
    · exact named
    · next behind accepted =>
      have structures : ∀ reader ∈ [classPattern pattern, array pattern, object pattern],
          Stays reader := by
        simp only [List.forall_mem_cons, List.not_mem_nil, false_implies, implies_true, and_true]
        exact ⟨classPattern_stays stays, array_stays stays, object_stays stays⟩
      have inside := (firstOf_stays structures behind).of_reaches
        (named.trans (acceptChar?_passes accepted).reaches)
      split
      · next failed => exact inside.error failed
      · next nothing => exact inside.ok nothing
      · next read => exact inside.ok read

/-- If the reader of nested patterns stays in the text, so does each alternative. -/
theorem patternStep_stays : Stays (patternStep pattern) := by
  refine firstOf_stays ?_
  simp only [List.forall_mem_cons, List.not_mem_nil, false_implies, implies_true, and_true]
  exact ⟨wildcard_stays, building_stays _ (lexeme_stays .nullWord),
    building_stays _ (lexeme_stays .undefinedWord), building_stays _ (lexeme_stays .booleanWord),
    building_stays _ number_onward, building_stays _ string_onward, classPattern_stays stays,
    extractor_stays stays, array_stays stays, object_stays stays, identifierOrBinder_stays stays⟩

end Nested

theorem pattern_stays (depth : Nat) : Stays (pattern depth) := by
  induction depth with
  | zero => exact Reaches.refl
  | succ depth ih => exact patternStep_stays ih

/-- A text that is not read is malformed somewhere, or has an integer token that is too long. -/
theorem parse_error {text : Text} {e : ParseError} (failed : parse text = .error e) :
    e.Behind (Cursor.start text) := by
  have inside := (sequenceItems_stays (pattern_stays text.length)
    (Cursor.start text).skipBlanks).of_reaches (skipBlanks_reaches _)
  unfold parse at failed
  dsimp only at failed
  split at failed
  · next other =>
    cases failed
    exact inside.error other
  · next found next read =>
    split at failed
    · cases failed
    · cases failed
      exact (inside.ok read).trans (skipBlanks_reaches next)

/-- Neither blanks nor a rest begin with a minus or a digit. -/
theorem number_head {b : CodePoint} (first : b = '-'.toNat ∨ isDigit b = true) :
    isBlank b = false ∧ isLower b = false ∧ (b == '.'.toNat) = false := by
  simp only [isDigit, Bool.and_eq_true, decide_eq_true_eq] at first
  simp only [isBlank, isLower, Bool.or_eq_false_iff, Bool.and_eq_false_iff,
    decide_eq_false_iff_not, beq_eq_false_iff_ne, ne_eq, Char.reduceToNat] at first ⊢
  unfold CodePoint at *
  omega

/-- What stops the first pattern of a text, behind blanks, stops the reading of the text. -/
theorem parse_of_failed {text : Text} {c : Cursor} {b : CodePoint} {e : ParseError}
    (blanks : Grammar.Blanks (Cursor.start text) c) (head : c.buffer.head? = some b)
    (visible : isBlank b = false) (noRest : rest (pattern text.length) c = .ok (none, c))
    (failed : ∀ depth, patternStep (pattern depth) c = .error e) : parse text = .error e := by
  have skipped : (Cursor.start text).skipBlanks = c :=
    blanks.skipBlanks_eq (by rw [Grammar.startsWith_of_head head, visible])
  have nonempty : 0 < c.buffer.length := by
    refine List.length_pos_iff.mpr fun none => ?_
    rw [none] at head
    cases head
  have within : c.buffer.length ≤ text.length := blanks.length_le
  have nested : pattern text.length c = .error e := by
    obtain ⟨depth, same⟩ := Nat.exists_eq_add_one.mpr (nonempty.trans_le within)
    rw [same, pattern, failed]
  have inside : sequenceItems (pattern text.length) c = .error e := by
    obtain ⟨limit, same⟩ := Nat.exists_eq_add_one.mpr nonempty
    rw [sequenceItems, items, same, commaSeparated]
    simp only [firstOf, noRest, nested]
  unfold parse
  dsimp only
  rw [skipped, inside]

/-- A text that begins with a long integer, behind blanks, is not read. -/
theorem parse_longInteger {text : Text} {c d : Cursor} {count : Nat}
    (blanks : Grammar.Blanks (Cursor.start text) c) (long : c.LongInteger count d) :
    parse text = .error (.integerTooLong count d) := by
  obtain ⟨b, head, first⟩ := long.head
  obtain ⟨visible, notLower, notPoint⟩ := number_head first
  have noRest : rest (pattern text.length) c = .ok (none, c) :=
    Grammar.rest_silent
      (Grammar.postfixRest_silent (by rw [Grammar.startsWith_of_head head, notLower]))
      (Grammar.dots_silent (by rw [Grammar.startsWith_of_head head, notPoint]))
  apply parse_of_failed blanks head visible noRest
  intro depth
  rw [Grammar.patternStep_of_number (by simp [long.number]), building, long.number]

end Pattern.Parser

/-! ## Compiling -/

open Pattern.Parser (parse)

/-- The places of a text: some of it is read and the rest is left. -/
theorem Cursor.reaches_start_iff {text : Text} {d : Cursor} :
    (Cursor.start text).Reaches d ↔
      ∃ before rest, text = before ++ rest ∧ d = ⟨text, rest, before.length⟩ := by
  constructor
  · rintro ⟨before, ⟨rest, same⟩, rfl⟩
    refine ⟨before, rest, same.symm, ?_⟩
    obtain rfl : before ++ rest = text := same
    simp [start, advance]
  · rintro ⟨before, rest, rfl, rfl⟩
    exact ⟨before, ⟨rest, rfl⟩, by simp [start, advance]⟩

/-- A text that is not read is kept in no cache, so compiling it fails as reading it does. -/
theorem Cache.compile_unreadable {cache : Cache} {text : Text} {e : ParseError}
    (sound : cache.enabled = true → cache.Sound) (failed : parse text = .error e) :
    (compile text cache).outcome.result = .error (.malformed e) := by
  refine compile_error_iff.mpr ⟨fun enabled => ?_, e, failed, rfl⟩
  refine Option.eq_none_iff_forall_ne_some.mpr fun compiled known => ?_
  obtain ⟨tree, read, -⟩ := (sound enabled).text _ _ known
  cases failed.symm.trans read

namespace Environment

variable {env : Environment} {text : Text}

/-- Only malformed text is answered as a value. -/
theorem compileWithErrors_result :
    (compileWithErrors text env).outcome.result =
      match (Cache.compile text env.cache).outcome.result with
      | .ok compiled => .ok (.ok compiled)
      | .error (.malformed (.malformed reason cursor)) =>
        .ok (.error ⟨reason.text, cursor.column, cursor.source⟩)
      | .error failure => .error failure := by
  have same : (compile text env).outcome.result =
    (Cache.compile text env.cache).outcome.result := rfl
  unfold compileWithErrors
  dsimp only
  rw [same]
  split <;> simp_all only

/-- How compiling with errors as values ends. A text that is read answers a procedure, and malformed
text answers the reason, the column and the source of the error in it. The one other end is a
failure: some integer token of the text has more digits than the limit. A text that begins with such
a token always fails so. -/
theorem compileWithErrors_answers (used : env.cache.enabled = true → ∃ ctx, Reached ctx env)
    (text : Text) :
    ((∃ tree compiled, parse text = .ok tree ∧
        (compileWithErrors text env).outcome.result = .ok (.ok compiled)) ∨
      (∃ reason before rest, text = before ++ rest ∧
        parse text = .error (.malformed reason ⟨text, rest, before.length⟩) ∧
        (compileWithErrors text env).outcome.result =
          .ok (.error ⟨reason.text, before.length + 1, text⟩)) ∨
      ∃ place count cursor, (Cursor.start text).Reaches place ∧ place.LongInteger count cursor ∧
        parse text = .error (.integerTooLong count cursor) ∧
        (compileWithErrors text env).outcome.result =
          .error (.malformed (.integerTooLong count cursor))) ∧
    ∀ place count cursor, Grammar.Blanks (Cursor.start text) place →
      place.LongInteger count cursor → parse text = .error (.integerTooLong count cursor) := by
  refine ⟨?_, fun place count cursor => Pattern.Parser.parse_longInteger⟩
  rw [compileWithErrors_result]
  cases read : parse text with
  | ok tree =>
    obtain ⟨next, events, compiled, ran⟩ := Cache.compile_readable env.cache read
    rw [ran]
    exact .inl ⟨tree, compiled, rfl, rfl⟩
  | error e =>
    rw [Cache.compile_unreadable (cache_sound_of_used used) read]
    have behind := Pattern.Parser.parse_error read
    cases e with
    | malformed reason cursor =>
      obtain ⟨before, rest, same, rfl⟩ := Cursor.reaches_start_iff.mp behind
      exact .inr (.inl ⟨reason, before, rest, same, rfl, rfl⟩)
    | integerTooLong count cursor =>
      obtain ⟨place, reached, long⟩ := behind
      exact .inr (.inr ⟨place, count, cursor, reached, long, rfl, rfl⟩)

/-- In a new environment a bracket that is not closed is reported as a value. A text of ones, one
more than the limit, is a failure. -/
theorem compileWithErrors_answers_ones :
    (compileWithErrors (Text.ofString "[x") (ofContext ⟨.empty, .empty, none⟩)).outcome.result =
        .ok (.error ⟨Text.ofString "Expected ]", 3, Text.ofString "[x"⟩) ∧
      ∃ cursor, (compileWithErrors (List.replicate 4301 '1'.toNat)
          (ofContext ⟨.empty, .empty, none⟩)).outcome.result =
        .error (.malformed (.integerTooLong 4301 cursor)) := by
  have used : ∃ ctx, Reached ctx (ofContext ⟨.empty, .empty, none⟩) := ⟨_, .start⟩
  constructor
  · have read : (parse (Text.ofString "[x")).map (fun _ => ()) =
        .error (.malformed (.expectedChar ']') ⟨Text.ofString "[x", [], 2⟩) := by decide +kernel
    obtain ⟨⟨tree, compiled, again, -⟩ | ⟨reason, before, rest, -, again, answers⟩ |
      ⟨place, count, cursor, -, -, again, -⟩, -⟩ :=
      compileWithErrors_answers (fun _ => used) (Text.ofString "[x")
    · rw [again] at read
      cases read
    · rw [again] at read
      have same := ParseError.malformed.inj (Except.error.inj read)
      obtain ⟨-, -, length⟩ := Cursor.mk.inj same.2
      rw [answers, same.1, length]
      rfl
    · rw [again] at read
      cases read
  · obtain ⟨answers, fails⟩ :=
      compileWithErrors_answers (fun _ => used) (List.replicate 4301 '1'.toNat)
    have read := fails _ _ _ (Grammar.Blanks.refl _) (Cursor.longInteger_ones (by decide))
    obtain ⟨tree, compiled, again, -⟩ | ⟨reason, before, rest, -, again, -⟩ |
      ⟨place, count, cursor, -, -, again, failed⟩ := answers
    · cases read.symm.trans again
    · cases read.symm.trans again
    · obtain ⟨rfl, -⟩ := ParseError.integerTooLong.inj (Except.error.inj (read.symm.trans again))
      exact ⟨cursor, failed⟩

end Environment

end PatternDispatch
