import PatternDispatch.Proofs.ReadingFailures

/-!
Which texts are number tokens. A token has a sign, digits before a point, a fraction and an
exponent, and only the digits must be there. The reader follows this grammar: what it reads is the
longest token, and it fails where a part of a token begins and is not complete. A point that no
digit precedes is read as well, so a fraction may stand alone.
-/

namespace PatternDispatch

open Character

namespace Numeral

/-- An exponent in writing. -/
inductive IsExponent : Option (Bool × Text) → Text → Prop
  | none : IsExponent none []
  | some {negative : Bool} {mark digits : Text} (isMark : IsMark negative mark)
      (areDigits : AreDigits digits) : IsExponent (some (negative, digits)) (mark ++ digits)

/-- The token with the parts of a numeral. What its digits before the point must be is open. -/
inductive IsToken (integral : Text → Prop) : Numeral → Text → Prop
  | parts {n : Numeral} {x : Text} (whole : integral n.whole)
      (fraction : ∀ digits, n.fraction = some digits → AreDigits digits)
      (exponent : IsExponent n.exponent x) :
      IsToken integral n (Number.signed n.negative (n.whole ++ (fractionText n.fraction ++ x)))

theorem IsToken.mono {p q : Text → Prop} (weaker : ∀ t, p t → q t) {n : Numeral} {w : Text}
    (token : IsToken p n w) : IsToken q n w := by
  obtain ⟨whole, fraction, exponent⟩ := token
  exact .parts (weaker _ whole) fraction exponent

/-- What a token denotes: the integer if it has neither fraction nor exponent, or else the float
nearest to the decimal. -/
def value (n : Numeral) : Number :=
  if n.fraction = none ∧ n.exponent = none then
    .int (if n.negative then -(Text.readDecimal n.whole : Int) else Text.readDecimal n.whole)
  else .float (n.magnitude.round .binary64 n.negative)

theorem value_of_read {n : Numeral} {number : Number} (read : n.read = .ok number) :
    number = n.value := by
  unfold Numeral.read at read
  unfold value
  split at read
  · next bare =>
    rw [if_pos bare]
    split at read
    · cases read
    · cases read
      rfl
  · next other =>
    rw [if_neg other]
    cases read
    rfl

/-- A mark begins with its letter. -/
theorem IsMark.head {negative : Bool} {mark : Text} (isMark : IsMark negative mark) (r : Text) :
    ∃ b, (mark ++ r).head? = some b ∧ (b = 'e'.toNat ∨ b = 'E'.toNat) := by
  cases isMark with
  | bare letter => exact ⟨_, rfl, letter⟩
  | signed letter => exact ⟨_, rfl, letter⟩

section Begins

variable {isMember : CodePoint → Bool} {negative : Bool} {mark : Text}

theorem startsWith_mark_append (lower : isMember 'e'.toNat = false)
    (upper : isMember 'E'.toNat = false) (isMark : IsMark negative mark) (r : Text) :
    Token.startsWith isMember (mark ++ r) = false := by
  obtain ⟨b, head, rfl | rfl⟩ := isMark.head r
  · rw [startsWith_head head, lower]
  · rw [startsWith_head head, upper]

theorem startsWith_mark (lower : isMember 'e'.toNat = false) (upper : isMember 'E'.toNat = false)
    (isMark : IsMark negative mark) : Token.startsWith isMember mark = false := by
  have whole := startsWith_mark_append lower upper isMark []
  rwa [List.append_nil] at whole

theorem startsWith_exponent (lower : isMember 'e'.toNat = false)
    (upper : isMember 'E'.toNat = false) {exponent : Option (Bool × Text)} {x : Text}
    (isExponent : IsExponent exponent x) : Token.startsWith isMember x = false := by
  cases isExponent with
  | none => rfl
  | some isMark => exact startsWith_mark_append lower upper isMark _

theorem startsWith_tail (point : isMember '.'.toNat = false) (fraction : Option Text) {x : Text}
    (behind : Token.startsWith isMember x = false) :
    Token.startsWith isMember (fractionText fraction ++ x) = false := by
  cases fraction with
  | none => exact behind
  | some digits => exact point

end Begins

theorem IsWhole.begins {whole t : Text} (isWhole : IsWhole whole) (front : whole <+: t) :
    Token.startsWith isDigit t = true := by
  obtain ⟨r, rfl⟩ := front
  obtain ⟨b, head, digit⟩ := isWhole.1.head r
  rw [startsWith_head head, digit]

/-- One digit is enough before a point. -/
theorem exists_isWhole {t : Text} (begins : Token.startsWith isDigit t = true) :
    ∃ whole, IsWhole whole ∧ whole <+: t := by
  cases t with
  | nil => cases begins
  | cons b bs =>
    refine ⟨[b], ⟨⟨by simp, List.forall_mem_singleton.mpr begins⟩, fun zero => ?_⟩, bs, rfl⟩
    exact congrArg (fun d => [d]) (Option.some.inj zero)

/-- No digits are there, or digits as they stand before a point. -/
def IsWholeOrNone (t : Text) : Prop := t = [] ∨ IsWhole t

theorem isMinus_digit {b : CodePoint} (digit : isDigit b = true) : (b == '-'.toNat) = false := by
  rw [beq_eq_false_iff_ne]
  rintro rfl
  cases digit

theorem startsWith_whole {whole t : Text} (integral : IsWholeOrNone whole)
    (tail : Token.startsWith (· == '-'.toNat) t = false) :
    Token.startsWith (· == '-'.toNat) (whole ++ t) = false := by
  obtain rfl | isWhole := integral
  · exact tail
  · obtain ⟨b, head, digit⟩ := isWhole.1.head t
    rw [startsWith_head head, isMinus_digit digit]

end Numeral

namespace Cursor

open Numeral

variable {a b c d e : Cursor} {t u w : Text}

/-! ## Fronts of a text -/

/-- What stands between the ends of two texts that begin at one place. -/
theorem Spans.behind (span : c.Spans (t ++ u) d) (front : c.Spans t a) : a.Spans u d := by
  have whole : a.buffer = u ++ d.buffer := List.append_cancel_left
    (front.buffer.symm.trans (span.buffer.trans (List.append_assoc t u d.buffer)))
  have rest := Spans.of_buffer whole
  rwa [(front.trans rest).unique span] at rest

theorem Spans.split (span : c.Spans (t ++ u) d) : ∃ a, c.Spans t a ∧ a.Spans u d := by
  have same : c.buffer = t ++ (u ++ d.buffer) := span.buffer.trans (List.append_assoc t u d.buffer)
  exact ⟨_, Spans.of_buffer same, span.behind (Spans.of_buffer same)⟩

/-- A text that does not begin as the one it is found in is empty. -/
theorem Spans.unmoved {isMember : CodePoint → Bool} (span : c.Spans t a)
    (begins : Token.startsWith isMember c.buffer = true)
    (other : Token.startsWith isMember t = false) : a = c := by
  cases t with
  | nil => exact span.unique (Spans.refl c)
  | cons b bs =>
    rw [span.buffer] at begins
    exact absurd (begins.symm.trans other) (by decide)

/-- Digits end where a run of digits ends, or in front of another digit of the run. -/
theorem Spans.within_digits (run : c.Spans w d) (digits : ∀ b ∈ w, isDigit b = true)
    (stop : Token.startsWith isDigit d.buffer = false) (span : c.Spans t a)
    (others : ∀ b ∈ t, isDigit b = true) :
    a = d ∨ Token.startsWith isDigit a.buffer = true ∧ a.Reaches d := by
  have taken : w = t ++ a.buffer.takeWhile isDigit := by
    rw [← Token.takeWhile_append digits stop, ← run.buffer, span.buffer,
      List.takeWhile_append_of_pos others]
  have rest : a.Spans (a.buffer.takeWhile isDigit) d := (taken ▸ run).behind span
  cases more : Token.startsWith isDigit a.buffer with
  | true => exact .inr ⟨rfl, _, rest⟩
  | false =>
    have none := Token.takeWhile_append (List.forall_mem_nil _) more
    rw [List.nil_append] at none
    rw [none] at rest
    exact .inl ((Spans.refl a).unique rest)

/-! ## The parts of a number -/

theorem noDigits_spec (noDigits : c.wholeDigits.1 = []) :
    c.wholeDigits = ([], c) ∧ Token.startsWith isDigit c.buffer = false := by
  obtain none | ⟨isWhole, -⟩ := wholeDigits_spec c
  · exact none
  · exact absurd noDigits isWhole.1.1

theorem lex?_digits_spec {lexeme : Lexeme} (lexed : c.lex? .digits = some (lexeme, d)) :
    AreDigits lexeme.text ∧ c.Spans lexeme.text d ∧ Token.startsWith isDigit d.buffer = false := by
  have span := (lex?_spans lexed).2
  obtain ⟨found, -⟩ := lex?_eq_some_iff.mp lexed
  obtain ⟨w, ran, rfl⟩ := Option.map_eq_some_iff.mp found
  obtain ⟨nonempty, digits, r, same, stop⟩ := Token.run_iff.mp ran
  obtain rfl : d.buffer = r := List.append_cancel_left (span.buffer.symm.trans same)
  exact ⟨⟨nonempty, digits⟩, span, stop⟩

theorem lex?_digits_none : c.lex? .digits = none ↔ Token.startsWith isDigit c.buffer = false := by
  rw [lex?_eq_none_iff, Token.match?, Option.map_eq_none_iff, Token.run_eq_none_iff]

theorem sign_cases (c : Cursor) :
    c.sign.1 = true ∧ c.Spans ['-'.toNat] c.sign.2 ∨
      c.sign = (false, c) ∧ Token.startsWith (· == '-'.toNat) c.buffer = false := by
  cases accepted : c.acceptChar? '-' with
  | some d =>
    have read : c.sign = (true, d) := by rw [sign, accepted]
    exact .inl ⟨by rw [read], by rw [read]; exact acceptChar?_iff.mp accepted⟩
  | none => exact .inr ⟨by rw [sign, accepted], acceptChar?_none accepted⟩

theorem fraction_found {digits : Text} (read : c.fraction = .ok (some digits, d)) :
    AreDigits digits ∧ c.Spans (fractionText (some digits)) d ∧
      Token.startsWith isDigit d.buffer = false := by
  unfold fraction at read
  split at read
  · cases read
  · next accepted =>
    split at read
    · cases read
    · next lexed =>
      cases read
      obtain ⟨areDigits, span, stop⟩ := lex?_digits_spec lexed
      exact ⟨areDigits, (acceptChar?_iff.mp accepted).trans span, stop⟩

theorem fraction_spans {found : Option Text} (read : c.fraction = .ok (found, d)) :
    c.Spans (fractionText found) d := by
  cases found with
  | none =>
    obtain rfl := fraction_none read
    exact Spans.refl d
  | some digits => exact (fraction_found read).2.1

/-- A fraction fails where no digit is behind its point. -/
theorem fraction_error_iff {f : ParseError} : c.fraction = .error f ↔
    ∃ d, c.Spans ['.'.toNat] d ∧ Token.startsWith isDigit d.buffer = false ∧
      f = .malformed .expectedDigit d := by
  constructor
  · intro failed
    unfold fraction at failed
    split at failed
    · cases failed
    · next d accepted =>
      split at failed
      · next noDigit =>
        cases failed
        exact ⟨d, acceptChar?_iff.mp accepted, lex?_digits_none.mp noDigit, rfl⟩
      · cases failed
  · rintro ⟨d, point, noDigit, rfl⟩
    rw [fraction, acceptChar?_iff.mpr point]
    simp only [lex?_digits_none.mpr noDigit]

theorem exponent_spans {found : Option (Bool × Text)} (read : c.exponent = .ok (found, d)) :
    ∃ x, IsExponent found x ∧ c.Spans x d := by
  unfold exponent at read
  split at read
  · cases read
    exact ⟨[], .none, Spans.refl c⟩
  · next mark next marked =>
    split at read
    · cases read
    · next lexed =>
      cases read
      obtain ⟨matched, -⟩ := lex?_eq_some_iff.mp marked
      obtain ⟨negative, text, r, isMark, -, rfl, -⟩ := exponentMark_iff.mp matched
      obtain ⟨areDigits, span, -⟩ := lex?_digits_spec lexed
      have both := (lex?_spans marked).2.trans span
      refine ⟨_, ?_, both⟩
      rw [Token.whole, mark_negative isMark]
      exact .some isMark areDigits

/-- An exponent fails where no digit is behind its mark. -/
theorem exponent_error_iff {f : ParseError} : c.exponent = .error f ↔
    ∃ negative mark d, IsMark negative mark ∧ c.Spans mark d ∧ MarkEnds mark d.buffer ∧
      Token.startsWith isDigit d.buffer = false ∧ f = .malformed .expectedDigit d := by
  constructor
  · intro failed
    unfold exponent at failed
    split at failed
    · cases failed
    · next mark next marked =>
      split at failed
      · next noDigit =>
        cases failed
        obtain ⟨matched, -⟩ := lex?_eq_some_iff.mp marked
        obtain ⟨negative, text, r, isMark, same, rfl, ends⟩ := exponentMark_iff.mp matched
        have span := (lex?_spans marked).2
        obtain rfl : next.buffer = r := List.append_cancel_left (span.buffer.symm.trans same)
        exact ⟨negative, text, next, isMark, span, ends, lex?_digits_none.mp noDigit, rfl⟩
      · cases failed
  · rintro ⟨negative, mark, d, isMark, span, ends, noDigit, rfl⟩
    rw [exponent, lex?_mark isMark ends span.buffer, ← span.2]
    simp only [lex?_digits_none.mpr noDigit]

/-! ## The longest token -/

theorem exponent_longest {found other : Option (Bool × Text)} {x : Text}
    (read : c.exponent = .ok (found, d)) (written : IsExponent other x) (span : c.Spans x a) :
    a.Reaches d := by
  cases written with
  | none =>
    obtain rfl := span.unique (Spans.refl c)
    exact exponent_reaches read
  | @some negative mark digits isMark areDigits =>
    obtain ⟨m, markSpan, digitsSpan⟩ := span.split
    obtain ⟨b, head, digit⟩ := areDigits.head a.buffer
    rw [← digitsSpan.buffer] at head
    rw [exponent, lex?_mark isMark (markEnds_of_digit _ head digit) markSpan.buffer,
      ← markSpan.2] at read
    dsimp only at read
    split at read
    · cases read
    · next lexed =>
      cases read
      obtain ⟨others, run, stop⟩ := lex?_digits_spec lexed
      obtain rfl | ⟨-, reaches⟩ := run.within_digits others.2 stop digitsSpan areDigits.2
      · exact Reaches.refl a
      · exact reaches

theorem fraction_longest {found other : Option Text} {exponent second : Option (Bool × Text)}
    {x : Text} (readFraction : c.fraction = .ok (found, e))
    (readExponent : e.exponent = .ok (exponent, d))
    (areDigits : ∀ digits, other = some digits → AreDigits digits)
    (written : IsExponent second x) (span : c.Spans (fractionText other ++ x) a) :
    a.Reaches d := by
  have behind := exponent_reaches readExponent
  cases other with
  | none =>
    cases found with
    | none =>
      obtain rfl := fraction_none readFraction
      exact exponent_longest readExponent written span
    | some digits =>
      -- A point is there, so no exponent is.
      have point : Token.startsWith (· == '.'.toNat) c.buffer = true :=
        startsWith_head (fraction_found readFraction).2.1.head
      obtain rfl := span.unmoved point (startsWith_exponent rfl rfl written)
      exact (fraction_some readFraction).reaches.trans behind
  | some others =>
    obtain ⟨f, front, rest⟩ := span.split
    cases found with
    | none =>
      have noPoint := fraction_absent readFraction
      rw [startsWith_head front.head] at noPoint
      cases noPoint
    | some digits =>
      obtain ⟨read, run, stop⟩ := fraction_found readFraction
      have areOthers := areDigits others rfl
      obtain ⟨g, point, digitsSpan⟩ := Spans.split (t := ['.'.toNat]) run
      obtain ⟨h, again, othersSpan⟩ := Spans.split (t := ['.'.toNat]) front
      obtain rfl := point.unique again
      obtain rfl | ⟨more, reaches⟩ := digitsSpan.within_digits read.2 stop othersSpan areOthers.2
      · exact exponent_longest readExponent written rest
      · obtain rfl := rest.unmoved more (startsWith_exponent rfl rfl written)
        exact reaches.trans behind

/-- The digits before a point are the longest. -/
theorem wholeDigits_longest {whole : Text} (integral : IsWholeOrNone whole)
    (span : c.Spans whole a) : a = c.wholeDigits.2 ∨
      Token.startsWith isDigit a.buffer = true ∧ a.Reaches c.wholeDigits.2 := by
  have run := wholeDigits_spans c
  obtain rfl | isWhole := integral
  · obtain rfl := span.unique (Spans.refl c)
    obtain ⟨read, -⟩ | ⟨read, -⟩ := wholeDigits_spec a
    · exact .inl (by rw [read])
    · exact .inr ⟨read.begins run.1, _, run⟩
  · obtain ⟨-, noDigit⟩ | ⟨read, zero | stop⟩ := wholeDigits_spec c
    · rw [isWhole.begins span.1] at noDigit
      cases noDigit
    · -- Nothing else begins with a zero.
      rw [zero] at run
      have begins : whole.head? = some '0'.toNat := by
        cases whole with
        | nil => exact absurd rfl isWhole.1.1
        | cons first others => exact span.head.symm.trans run.head
      rw [isWhole.2 begins] at span
      exact .inl (span.unique run)
    · exact run.within_digits read.1.2 stop span isWhole.1.2

theorem sign_longest {negative : Bool} (unsigned : Token.startsWith (· == '-'.toNat) t = false)
    (span : c.Spans (Number.signed negative t) a) :
    a = c ∨ negative = c.sign.1 ∧ c.sign.2.Spans t a := by
  obtain ⟨minus, signSpan⟩ | ⟨none, noMinus⟩ := sign_cases c
  · cases negative with
    | true => exact .inr ⟨minus.symm, Spans.behind (t := ['-'.toNat]) span signSpan⟩
    | false =>
      have begins : Token.startsWith (· == '-'.toNat) c.buffer = true :=
        startsWith_head signSpan.head
      exact .inl (span.unmoved begins unsigned)
  · rw [none]
    cases negative with
    | true =>
      rw [startsWith_head span.head] at noMinus
      cases noMinus
    | false => exact .inr ⟨rfl, span⟩

/-- Every token that the text begins with ends where the numeral ends that is read, or before. -/
theorem numeral_longest {n m : Numeral} (read : c.numeral = .ok (some n, d))
    (token : IsToken IsWholeOrNone m w) (span : c.Spans w a) : a.Reaches d := by
  have course := numeral_course c
  have passes := (numeral_some read).reaches
  rw [read] at course
  obtain ⟨integral, areDigits, written⟩ := token
  have unsigned := startsWith_whole integral
    (startsWith_tail rfl m.fraction (startsWith_exponent rfl rfl written))
  obtain rfl | ⟨-, rest⟩ := sign_longest unsigned span
  · exact passes
  cases course with
  | found present readFraction readExponent =>
    obtain ⟨h, whole, tail⟩ := rest.split
    obtain rfl | ⟨more, reaches⟩ := wholeDigits_longest integral whole
    · exact fraction_longest readFraction readExponent areDigits written tail
    · obtain rfl := tail.unmoved more
        (startsWith_tail rfl m.fraction (startsWith_exponent rfl rfl written))
      have behind : c.sign.2.wholeDigits.2.Reaches _ := ⟨_, fraction_spans readFraction⟩
      exact reaches.trans (behind.trans (exponent_reaches readExponent))

/-! ## The grammar -/

/-- A point stands where the digits of a number would begin. -/
def PointFirst (c : Cursor) : Prop :=
  ∃ negative r, c.buffer = Number.signed negative ('.'.toNat :: r)

theorem pointFirst_iff :
    c.PointFirst ↔ Token.startsWith (· == '.'.toNat) c.sign.2.buffer = true := by
  constructor
  · rintro ⟨negative, r, same⟩
    obtain ⟨d, read, -, behind⟩ := sign_text (t := '.'.toNat :: r) rfl same
    rw [read]
    simp only [behind]
    rfl
  · intro begins
    have span := sign_spans c
    cases same : c.sign.2.buffer with
    | nil =>
      rw [same] at begins
      cases begins
    | cons b r =>
      rw [same] at begins
      obtain rfl : b = '.'.toNat := beq_iff_eq.mp begins
      exact ⟨c.sign.1, r, by rw [span.buffer, same, Number.signed_append, List.nil_append]⟩

/-- A place where a digit is missing: behind the point of a fraction, or behind the mark of an
exponent. -/
inductive LacksDigit (integral : Text → Prop) (c : Cursor) : Cursor → Prop
  | fraction {negative : Bool} {whole : Text} {d : Cursor} (isIntegral : integral whole)
      (span : c.Spans (Number.signed negative (whole ++ ['.'.toNat])) d)
      (noDigit : Token.startsWith isDigit d.buffer = false) : LacksDigit integral c d
  | exponent {negative down : Bool} {whole mark : Text} {fraction : Option Text} {d : Cursor}
      (isIntegral : integral whole)
      (areDigits : ∀ digits, fraction = some digits → AreDigits digits)
      (isMark : IsMark down mark)
      (span : c.Spans (Number.signed negative (whole ++ (fractionText fraction ++ mark))) d)
      (ends : MarkEnds mark d.buffer) (noDigit : Token.startsWith isDigit d.buffer = false) :
      LacksDigit integral c d

/-- The numbers at a place are read by the grammar with these digits before the point. -/
structure FollowsGrammar (integral : Text → Prop) (c : Cursor) : Prop where
  /-- What is read is a token and denotes what the token does. No token there is longer. -/
  token : ∀ number d, c.number = .ok (some number, d) → ∃ n w, IsToken integral n w ∧
    c.Spans w d ∧ number = n.value ∧ ∀ m v, IsToken integral m v → v <+: c.buffer → v <+: w
  digit : ∀ d, c.number = .error (.malformed .expectedDigit d) ↔ c.LacksDigit integral d
  /-- A minus that nothing of a token follows. -/
  minus : ∀ d, c.number = .error (.malformed .expectedNumber d) ↔
    c.Spans ['-'.toNat] d ∧ ∀ whole, integral whole → ¬whole <+: d.buffer

theorem number_read {number : Number} (read : c.number = .ok (some number, d)) :
    ∃ n, c.numeral = .ok (some n, d) ∧ n.read = .ok number := by
  unfold Cursor.number at read
  split at read
  · cases read
  · cases read
  · next n next parts =>
    split at read
    · cases read
    · next denotes =>
      cases read
      exact ⟨n, parts, denotes⟩

/-- Malformed text is found among the parts. -/
theorem number_malformed_iff {reason : Reason} :
    c.number = .error (.malformed reason d) ↔ c.numeral = .error (.malformed reason d) := by
  unfold Cursor.number
  split
  · next failed => rw [failed, Except.error.injEq, Except.error.injEq]
  · next read => simp [read]
  · next read =>
    rw [read]
    split <;> simp

/-- The digits of a token that stand before a point in the text at this place. -/
def Integral (c : Cursor) (t : Text) : Prop :=
  c.PointFirst ∧ t = [] ∨ ¬c.PointFirst ∧ IsWhole t

theorem Integral.isWholeOrNone (integral : c.Integral t) : IsWholeOrNone t :=
  integral.imp And.right And.right

/-- No digit is in front of a point that comes first. -/
theorem wholeDigits_of_pointFirst (point : c.PointFirst) :
    c.sign.2.wholeDigits = ([], c.sign.2) := by
  have begins := pointFirst_iff.mp point
  apply wholeDigits_of_no_digit
  cases same : c.sign.2.buffer with
  | nil => rfl
  | cons b bs =>
    rw [same] at begins
    rw [beq_iff_eq.mp begins]
    rfl

theorem Integral.pointFirst (integral : c.Integral []) : c.PointFirst := by
  obtain ⟨point, -⟩ | ⟨-, isWhole⟩ := integral
  · exact point
  · exact absurd rfl isWhole.1.1

theorem integral_of_read (begun : c.sign.2.wholeDigits.1 ≠ [] ∨
    Token.startsWith (· == '.'.toNat) c.sign.2.wholeDigits.2.buffer = true) :
    c.Integral c.sign.2.wholeDigits.1 := by
  obtain ⟨none, -⟩ | ⟨isWhole, -⟩ := wholeDigits_spec c.sign.2
  · rw [none] at begun ⊢
    exact .inl ⟨pointFirst_iff.mpr (begun.resolve_left fun present => present rfl), rfl⟩
  · refine .inr ⟨fun point => ?_, isWhole⟩
    rw [wholeDigits_of_pointFirst point] at isWhole
    exact isWhole.1.1 rfl

/-- Digits stand before a point or a fraction stands behind it. -/
theorem integral_of_parts {fraction : Option Text}
    (present : ¬(c.sign.2.wholeDigits.1 = [] ∧ fraction = none))
    (read : c.sign.2.wholeDigits.2.fraction = .ok (fraction, d)) :
    c.Integral c.sign.2.wholeDigits.1 := by
  apply integral_of_read
  cases fraction with
  | none => exact .inl fun empty => present ⟨empty, rfl⟩
  | some digits => exact .inr (startsWith_head (fraction_spans read).head)

theorem areDigits_of_fraction {fraction : Option Text} (read : c.fraction = .ok (fraction, d)) :
    ∀ digits, fraction = some digits → AreDigits digits := by
  rintro digits rfl
  exact (fraction_found read).1

theorem token_of_numeral {n : Numeral} (read : c.numeral = .ok (some n, d)) :
    ∃ w, IsToken c.Integral n w ∧ c.Spans w d := by
  have course := numeral_course c
  rw [read] at course
  cases course with
  | @found fraction exponent e _ present readFraction readExponent =>
    have fractionSpan := fraction_spans readFraction
    obtain ⟨x, written, exponentSpan⟩ := exponent_spans readExponent
    have span := (front_spans c).trans (fractionSpan.trans exponentSpan)
    rw [Number.signed_append] at span
    exact ⟨_, .parts (integral_of_parts present readFraction) (areDigits_of_fraction readFraction)
      written, span⟩

/-- What the readers of the parts answer where a token begins. -/
theorem parts_of_span {negative : Bool} {whole : Text} (integral : IsWholeOrNone whole)
    (span : c.Spans (Number.signed negative (whole ++ t)) d) (begun : t ≠ [])
    (noMinus : Token.startsWith (· == '-'.toNat) t = false)
    (noDigit : Token.startsWith isDigit t = false) :
    c.sign.1 = negative ∧ c.sign.2.wholeDigits.1 = whole ∧ c.sign.2.wholeDigits.2.Spans t d := by
  have present : Number.signed negative (whole ++ t) ≠ [] := by
    cases negative <;> simp [Number.signed, begun]
  obtain rfl | ⟨rfl, rest⟩ := sign_longest (startsWith_whole integral noMinus) span
  · exact absurd (span.length_lt present) (lt_irrefl _)
  have same : c.sign.2.buffer = whole ++ (t ++ d.buffer) := by
    rw [rest.buffer, List.append_assoc]
  have stop : Token.startsWith isDigit (t ++ d.buffer) = false := by
    cases t with
    | nil => exact absurd rfl begun
    | cons b bs => exact noDigit
  have read : c.sign.2.wholeDigits = (whole, c.sign.2.advance whole.length) := by
    obtain rfl | isWhole := integral
    · rw [wholeDigits_of_no_digit (by rw [same]; exact stop), ← (Spans.refl c.sign.2).2]
    · exact wholeDigits_text isWhole same stop
  rw [read]
  exact ⟨rfl, rfl, rest.behind (Spans.of_buffer same)⟩

/-- A numeral fails for want of a digit where a fraction or an exponent does. -/
theorem numeral_lacks_digit_iff :
    c.numeral = .error (.malformed .expectedDigit d) ↔ c.LacksDigit c.Integral d := by
  constructor
  · intro failed
    have course := numeral_course c
    rw [failed] at course
    cases course with
    | badFraction failed =>
      obtain ⟨e, point, noDigit, same⟩ := fraction_error_iff.mp failed
      obtain ⟨-, rfl⟩ := ParseError.malformed.inj same
      have span := (front_spans c).trans point
      rw [Number.signed_append] at span
      exact .fraction (integral_of_read (.inr (startsWith_head point.head))) span noDigit
    | @badExponent fraction e _ present readFraction failed =>
      obtain ⟨down, mark, f, isMark, markSpan, ends, noDigit, same⟩ := exponent_error_iff.mp failed
      obtain ⟨-, rfl⟩ := ParseError.malformed.inj same
      have fractionSpan := fraction_spans readFraction
      have span := (front_spans c).trans (fractionSpan.trans markSpan)
      rw [Number.signed_append] at span
      exact .exponent (integral_of_parts present readFraction) (areDigits_of_fraction readFraction)
        isMark span ends noDigit
  · intro lacks
    cases lacks with
    | @fraction negative whole _ integral span noDigit =>
      obtain ⟨-, -, point⟩ := parts_of_span integral.isWholeOrNone span (by simp) rfl rfl
      have failed := fraction_error_iff.mpr ⟨d, point, noDigit, rfl⟩
      rw [numeral, numeralBehind, failed]
    | @exponent negative down whole mark fraction _ integral areDigits isMark span ends noDigit =>
      have begun : fractionText fraction ++ mark ≠ [] := by cases isMark <;> simp
      obtain ⟨-, rfl, rest⟩ := parts_of_span integral.isWholeOrNone span begun
        (startsWith_tail rfl fraction (startsWith_mark rfl rfl isMark))
        (startsWith_tail rfl fraction (startsWith_mark rfl rfl isMark))
      obtain ⟨e, fractionSpan, markSpan⟩ := rest.split
      have noPart : Token.startsWith (fun b => isDigit b || b == '.'.toNat) e.buffer = false := by
        rw [markSpan.buffer]
        exact startsWith_mark_append rfl rfl isMark d.buffer
      have readFraction := fraction_text areDigits fractionSpan.buffer noPart
      rw [← fractionSpan.2] at readFraction
      have failed := exponent_error_iff.mpr ⟨down, mark, d, isMark, markSpan, ends, noDigit, rfl⟩
      have present : ¬(c.sign.2.wholeDigits.1 = [] ∧ fraction = none) := by
        rintro ⟨noDigits, rfl⟩
        rw [noDigits] at integral
        have begins := pointFirst_iff.mp integral.pointFirst
        rw [wholeDigits_of_pointFirst integral.pointFirst] at fractionSpan
        obtain rfl := fractionSpan.unique (Spans.refl c.sign.2)
        rw [markSpan.buffer, startsWith_mark_append rfl rfl isMark] at begins
        cases begins
      rw [numeral, numeralBehind, readFraction]
      simp only [if_neg present, failed]

/-- A numeral fails as a whole at a minus that nothing of a token follows. -/
theorem numeral_lone_iff : c.numeral = .error (.malformed .expectedNumber d) ↔
    c.Spans ['-'.toNat] d ∧ ∀ whole, c.Integral whole → ¬whole <+: d.buffer := by
  constructor
  · intro failed
    have course := numeral_course c
    rw [failed] at course
    cases course with
    | lone minus noDigits noFraction =>
      obtain ⟨read, noDigit⟩ := noDigits_spec noDigits
      rw [read] at noFraction
      obtain rfl := fraction_none noFraction
      have noPoint := fraction_absent noFraction
      obtain ⟨-, span⟩ | ⟨unsigned, -⟩ := sign_cases c
      · refine ⟨span, fun whole integral begins => ?_⟩
        obtain ⟨point, -⟩ | ⟨-, isWhole⟩ := integral
        · exact absurd ((pointFirst_iff.mp point).symm.trans noPoint) (by decide)
        · exact absurd (isWhole.begins begins).symm (by simp [noDigit])
      · rw [unsigned] at minus
        cases minus
    | badFraction failed =>
      obtain ⟨e, -, -, same⟩ := fraction_error_iff.mp failed
      cases same
    | badExponent present readFraction failed =>
      obtain ⟨down, mark, e, -, -, -, -, same⟩ := exponent_error_iff.mp failed
      cases same
  · rintro ⟨span, nothing⟩
    have signed : c.sign = (true, d) := by rw [sign, acceptChar?_iff.mpr span]
    have notFirst : ¬c.PointFirst := fun point => nothing [] (.inl ⟨point, rfl⟩) List.nil_prefix
    have noDigit : Token.startsWith isDigit d.buffer = false := by
      refine Bool.eq_false_iff.mpr fun begins => ?_
      obtain ⟨whole, isWhole, front⟩ := exists_isWhole begins
      exact nothing whole (.inr ⟨notFirst, isWhole⟩) front
    have noPoint : Token.startsWith (· == '.'.toNat) d.buffer = false := by
      refine Bool.eq_false_iff.mpr fun begins => notFirst (pointFirst_iff.mpr ?_)
      rw [signed]
      exact begins
    rw [numeral, signed]
    simp only [wholeDigits_of_no_digit noDigit]
    rw [numeralBehind, fraction, acceptChar?_eq_none noPoint]
    simp only [and_self, if_true]

theorem followsGrammar (c : Cursor) : c.FollowsGrammar c.Integral where
  token number d read := by
    obtain ⟨n, parts, denotes⟩ := number_read read
    obtain ⟨w, token, span⟩ := token_of_numeral parts
    refine ⟨n, w, token, span, value_of_read denotes, fun m v other begins => ?_⟩
    obtain ⟨u, rest⟩ := numeral_longest parts
      (other.mono fun _ integral => integral.isWholeOrNone) ⟨begins, rfl⟩
    exact ⟨u, (Spans.trans ⟨begins, rfl⟩ rest).text_unique span⟩
  digit d := number_malformed_iff.trans numeral_lacks_digit_iff
  minus d := number_malformed_iff.trans numeral_lone_iff

/-! ## Other ends -/

theorem numeral_error {f : ParseError} (failed : c.numeral = .error f) :
    ∃ reason d, f = .malformed reason d ∧ (reason = .expectedDigit ∨ reason = .expectedNumber) := by
  have course := numeral_course c
  rw [failed] at course
  cases course with
  | badFraction failed =>
    obtain ⟨d, -, -, rfl⟩ := fraction_error_iff.mp failed
    exact ⟨_, d, rfl, .inl rfl⟩
  | lone => exact ⟨_, _, rfl, .inr rfl⟩
  | badExponent present readFraction failed =>
    obtain ⟨down, mark, d, -, -, -, -, rfl⟩ := exponent_error_iff.mp failed
    exact ⟨_, d, rfl, .inl rfl⟩

theorem number_tooLong_iff {count : Nat} :
    c.number = .error (.integerTooLong count d) ↔ c.LongInteger count d := by
  refine ⟨fun failed => ?_, LongInteger.number⟩
  unfold Cursor.number at failed
  split at failed
  · next other =>
    obtain ⟨reason, e, rfl, -⟩ := numeral_error other
    cases failed
  · cases failed
  · next read =>
    split at failed
    · next tooLong =>
      cases failed
      exact longInteger_of_read read tooLong
    · cases failed

/-- Nothing is read where no number can begin, and only there. -/
theorem number_none_iff : c.number = .ok (none, d) ↔
    d = c ∧ Token.startsWith isNumberStart c.buffer = false := by
  constructor
  · intro nothing
    obtain rfl := number_none nothing
    refine ⟨rfl, ?_⟩
    have absent : d.numeral = .ok (none, d) := by
      unfold Cursor.number at nothing
      split at nothing
      · cases nothing
      · next read =>
        cases nothing
        exact read
      · split at nothing <;> cases nothing
    have course := numeral_course d
    rw [absent] at course
    cases course with
    | absent unsigned noDigits noFraction =>
      obtain ⟨minus, -⟩ | ⟨signRead, noMinus⟩ := sign_cases d
      · exact absurd (minus.symm.trans unsigned) (by decide)
      · rw [signRead] at noDigits noFraction
        obtain ⟨read, noDigit⟩ := noDigits_spec noDigits
        rw [read] at noFraction
        have noPoint := fraction_absent noFraction
        cases same : d.buffer with
        | nil => rfl
        | cons b bs =>
          rw [same] at noDigit noMinus noPoint
          exact Bool.or_eq_false_iff.mpr ⟨Bool.or_eq_false_iff.mpr ⟨noDigit, noMinus⟩, noPoint⟩
  · rintro ⟨rfl, other⟩
    exact number_of_not_start other

/-- Number tokens are read by their grammar. Where no point comes first, behind a minus or without
one, a token has digits before its point; where a point does, none are there. In both cases the
longest token is read, and reading fails at a fraction, an exponent or a minus that is not complete.
Nothing is read where neither a digit nor a minus nor a point begins, and the one other failure is
an integer token beyond the limit. -/
theorem number_follows_grammar (c : Cursor) :
    (¬c.PointFirst → c.FollowsGrammar IsWhole) ∧
      (c.PointFirst → c.FollowsGrammar (· = [])) ∧
      (∀ d, c.number = .ok (none, d) ↔
        d = c ∧ Token.startsWith isNumberStart c.buffer = false) ∧
      (∀ count d, c.number = .error (.integerTooLong count d) ↔ c.LongInteger count d) ∧
      ∀ reason d, c.number = .error (.malformed reason d) →
        reason = .expectedDigit ∨ reason = .expectedNumber := by
  have follows := followsGrammar c
  refine ⟨fun notFirst => ?_, fun first => ?_, fun d => number_none_iff,
    fun count d => number_tooLong_iff, fun reason d failed => ?_⟩
  · have same : c.Integral = IsWhole := by
      funext t
      simp only [Integral, notFirst, false_and, not_false_eq_true, true_and, false_or]
    rwa [same] at follows
  · have same : c.Integral = (· = []) := by
      funext t
      simp only [Integral, first, true_and, not_true_eq_false, false_and, or_false]
    rwa [same] at follows
  · obtain ⟨other, e, same, expected⟩ := numeral_error (number_malformed_iff.mp failed)
    obtain ⟨rfl, -⟩ := ParseError.malformed.inj same
    exact expected

/-- A digit is missing behind the mark of `1e+`. The fraction in `.5` stands alone. -/
theorem number_follows_grammar_mark :
    (start (Text.ofString "1e+")).LacksDigit IsWhole ⟨Text.ofString "1e+", [], 3⟩ ∧
      ∃ n w, IsToken (· = []) n w ∧
        (start (Text.ofString ".5")).Spans w ⟨Text.ofString ".5", [], 2⟩ := by
  constructor
  · have notFirst : ¬(start (Text.ofString "1e+")).PointFirst := by
      rw [pointFirst_iff]
      decide
    refine (((number_follows_grammar _).1 notFirst).digit _).mp ?_
    decide +kernel
  · have first : (start (Text.ofString ".5")).PointFirst := by
      rw [pointFirst_iff]
      decide
    have read : (start (Text.ofString ".5")).number =
        .ok (some (Numeral.value ⟨false, [], some (Text.ofString "5"), none⟩),
          ⟨Text.ofString ".5", [], 2⟩) := by decide +kernel
    obtain ⟨n, w, token, span, -⟩ := ((number_follows_grammar _).2.1 first).token _ _ read
    exact ⟨n, w, token, span⟩

end Cursor

end PatternDispatch
