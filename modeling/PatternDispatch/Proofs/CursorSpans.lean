import Mathlib.Data.List.TakeWhile
import PatternDispatch.Cursor.Literal

/-!
What the text between two places of a cursor is. Every accepting move of a cursor is described by
the text it passes over, so that readers can be compared with a grammar without their offsets.
-/

namespace PatternDispatch

open Character

namespace Token

theorem startsWith_eq (isMember : CodePoint → Bool) (t : Text) :
    startsWith isMember t = t.head?.any isMember := by
  cases t <;> rfl

theorem word_iff {w t : Text} :
    word w t = true ↔ ∃ r, t = w ++ r ∧ startsWith isWord r = false := by
  simp only [word, Bool.and_eq_true, List.isPrefixOf_iff_prefix, Bool.not_eq_true']
  constructor
  · rintro ⟨⟨r, rfl⟩, stop⟩
    exact ⟨r, rfl, by simpa using stop⟩
  · rintro ⟨r, rfl, stop⟩
    exact ⟨⟨r, rfl⟩, by simpa using stop⟩

/-- A run takes all it can: what follows begins with no member. -/
theorem takeWhile_append {isMember : CodePoint → Bool} {w r : Text}
    (members : ∀ c ∈ w, isMember c = true) (stop : startsWith isMember r = false) :
    (w ++ r).takeWhile isMember = w := by
  rw [List.takeWhile_append_of_pos members]
  cases r with
  | nil => simp
  | cons c cs =>
    have outside : isMember c = false := stop
    simp [outside]

/-- Every text is a run and what stops it. -/
theorem exists_takeWhile (isMember : CodePoint → Bool) (t : Text) :
    ∃ r, t = t.takeWhile isMember ++ r ∧ (∀ c ∈ t.takeWhile isMember, isMember c = true) ∧
      startsWith isMember r = false := by
  refine ⟨t.dropWhile isMember, (List.takeWhile_append_dropWhile).symm,
    fun c member => List.mem_takeWhile_imp member, ?_⟩
  have stop := List.head?_dropWhile_not isMember t
  cases same : t.dropWhile isMember with
  | nil => rfl
  | cons c cs =>
    rw [same] at stop
    exact stop

theorem run_iff {isMember : CodePoint → Bool} {t w : Text} :
    run isMember t = some w ↔
      w ≠ [] ∧ (∀ c ∈ w, isMember c = true) ∧ ∃ r, t = w ++ r ∧ startsWith isMember r = false := by
  constructor
  · intro found
    have taken : t.takeWhile isMember = w ∧ w ≠ [] := by
      unfold run at found
      split at found
      · cases found
      · next c cs same => cases found; exact ⟨same, by simp⟩
    obtain ⟨r, whole, members, stop⟩ := exists_takeWhile isMember t
    rw [taken.1] at whole members
    exact ⟨taken.2, members, r, whole, stop⟩
  · rintro ⟨nonempty, members, r, rfl, stop⟩
    unfold run
    rw [takeWhile_append members stop]
    cases w with
    | nil => exact absurd rfl nonempty
    | cons c cs => rfl

theorem run_eq_none_iff {isMember : CodePoint → Bool} {t : Text} :
    run isMember t = none ↔ startsWith isMember t = false := by
  cases t with
  | nil => simp [run, startsWith]
  | cons c cs => cases first : isMember c <;> simp [run, startsWith, first]

/-- A name of the given first characters: one of them, then name characters. -/
def IsName (isFirst : CodePoint → Bool) (n : Text) : Prop :=
  ∃ c cs, n = c :: cs ∧ isFirst c = true ∧ ∀ d ∈ cs, isNamePart d = true

theorem name_iff {isFirst : CodePoint → Bool} {t n : Text} :
    name isFirst t = some n ↔
      IsName isFirst n ∧ ∃ r, t = n ++ r ∧ startsWith isNamePart r = false := by
  constructor
  · intro found
    cases t with
    | nil => cases found
    | cons c cs =>
      obtain ⟨r, whole, members, stop⟩ := exists_takeWhile isNamePart cs
      simp only [name] at found
      split at found
      · next first =>
        cases found
        exact ⟨⟨c, _, rfl, first, members⟩, r, congrArg (c :: ·) whole, stop⟩
      · cases found
  · rintro ⟨⟨c, cs, rfl, first, members⟩, r, rfl, stop⟩
    simp only [List.cons_append, name, first, if_true, takeWhile_append members stop]

theorem name_eq_none {isFirst : CodePoint → Bool} {t : Text} (other : startsWith isFirst t = false) :
    name isFirst t = none := by
  cases t with
  | nil => rfl
  | cons c cs =>
    have different : isFirst c = false := other
    simp [name, different]

end Token

namespace Cursor

/-- The text `w` stands between the places `c` and `d`. -/
def Spans (c : Cursor) (w : Text) (d : Cursor) : Prop :=
  w <+: c.buffer ∧ d = c.advance w.length

namespace Spans

variable {c d e : Cursor} {v w r : Text}

theorem of_buffer (same : c.buffer = w ++ r) : c.Spans w (c.advance w.length) :=
  ⟨⟨r, same.symm⟩, rfl⟩

theorem buffer_advance (same : c.buffer = w ++ r) : (c.advance w.length).buffer = r := by
  simp [advance, same]

theorem buffer (span : c.Spans w d) : c.buffer = w ++ d.buffer := by
  obtain ⟨⟨r, same⟩, rfl⟩ := span
  rw [buffer_advance same.symm, same]

/-- The first character of a text is the next one of the cursor in front of it. -/
theorem head {b : CodePoint} (span : c.Spans (b :: w) d) : c.buffer.head? = some b := by
  rw [span.buffer]
  rfl

theorem refl (c : Cursor) : c.Spans [] c := ⟨List.nil_prefix, by simp [advance]⟩

theorem trans (first : c.Spans v d) (second : d.Spans w e) : c.Spans (v ++ w) e := by
  obtain ⟨⟨r, same⟩, rfl⟩ := first
  obtain ⟨⟨s, next⟩, rfl⟩ := second
  rw [buffer_advance same.symm] at next
  refine ⟨⟨s, by rw [List.append_assoc, next, same]⟩, ?_⟩
  simp only [advance, ← same, ← next, List.length_append, List.drop_append, Cursor.mk.injEq,
    true_and]
  simp
  omega

/-- Where a text ends is fixed by where it begins. -/
theorem unique (one : c.Spans w d) (other : c.Spans w e) : d = e := one.2.trans other.2.symm

/-- Two texts that end at one place are the same. -/
theorem text_unique (one : c.Spans v d) (other : c.Spans w d) : v = w :=
  List.append_cancel_right (one.buffer.symm.trans other.buffer)

theorem length_le (span : c.Spans w d) : d.buffer.length ≤ c.buffer.length := by
  have same := congrArg List.length span.buffer
  rw [List.length_append] at same
  omega

theorem length_lt (span : c.Spans w d) (nonempty : w ≠ []) :
    d.buffer.length < c.buffer.length := by
  have same := congrArg List.length span.buffer
  have positive := List.length_pos_iff.mpr nonempty
  rw [List.length_append] at same
  omega

end Spans

theorem accept?_iff {c d : Cursor} {w : Text} : c.accept? w = some d ↔ c.Spans w d := by
  simp only [accept?, startsWith, List.isPrefixOf_iff_prefix, Option.ite_none_right_eq_some,
    Option.some.injEq, Spans]
  exact and_congr_right fun _ => eq_comm

theorem acceptChar?_iff {c d : Cursor} {char : Char} :
    c.acceptChar? char = some d ↔ c.Spans [char.toNat] d := accept?_iff

theorem accept?_eq_none_iff {c : Cursor} {w : Text} : c.accept? w = none ↔ ¬w <+: c.buffer := by
  simp [accept?, startsWith]

theorem acceptChar?_eq_none {c : Cursor} {char : Char}
    (other : Token.startsWith (· == char.toNat) c.buffer = false) : c.acceptChar? char = none := by
  refine accept?_eq_none_iff.mpr fun begins => ?_
  obtain ⟨r, same⟩ := begins
  rw [← same] at other
  simp [Token.startsWith] at other

/-- A character that is not accepted does not come next. -/
theorem acceptChar?_none {c : Cursor} {char : Char} (absent : c.acceptChar? char = none) :
    Token.startsWith (· == char.toNat) c.buffer = false := by
  cases same : c.buffer with
  | nil => rfl
  | cons b bs =>
    refine beq_eq_false_iff_ne.mpr fun equal => accept?_eq_none_iff.mp absent ?_
    rw [same, equal]
    exact ⟨bs, rfl⟩

theorem lex?_eq_some_iff {c d : Cursor} {token : Token} {lexeme : Lexeme} :
    c.lex? token = some (lexeme, d) ↔
      token.match? c.buffer = some lexeme ∧ d = c.advance lexeme.text.length := by
  simp only [lex?, peek?, Option.map_eq_some_iff, Prod.mk.injEq]
  constructor
  · rintro ⟨_, found, rfl, rfl⟩
    exact ⟨found, rfl⟩
  · rintro ⟨found, rfl⟩
    exact ⟨lexeme, found, rfl, rfl⟩

theorem lex?_eq_none_iff {c : Cursor} {token : Token} :
    c.lex? token = none ↔ token.match? c.buffer = none := by simp [lex?, peek?]

end Cursor

end PatternDispatch
