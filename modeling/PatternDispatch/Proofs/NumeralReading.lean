import PatternDispatch.Proofs.DigitText
import PatternDispatch.Proofs.LiteralSpans

/-!
A numeral that is written out is read back part by part. Each part is told from the next by its
first character, so the reader of numbers stops behind the last part and not before.
-/

namespace PatternDispatch

open Character

namespace Numeral

def fractionText : Option Text → Text
  | none => []
  | some digits => '.'.toNat :: digits

/-- An exponent with its mark; whether one that is not negative has a plus is left open. -/
def exponentText (plus : Bool) : Option (Bool × Text) → Text
  | none => []
  | some (true, digits) => 'e'.toNat :: '-'.toNat :: digits
  | some (false, digits) => 'e'.toNat :: ((if plus then ['+'.toNat] else []) ++ digits)

def unsignedText (plus : Bool) (n : Numeral) : Text :=
  n.whole ++ (fractionText n.fraction ++ exponentText plus n.exponent)

def text (plus : Bool) (n : Numeral) : Text := Number.signed n.negative (n.unsignedText plus)

/-- Some digits. -/
def AreDigits (t : Text) : Prop := t ≠ [] ∧ ∀ c ∈ t, isDigit c = true

/-- Digits without a zero in front of others. -/
def IsWhole (t : Text) : Prop := AreDigits t ∧ (t.head? = some '0'.toNat → t = ['0'.toNat])

/-- The mark of an exponent: its letter, and its sign if there is one. -/
inductive IsMark : Bool → Text → Prop
  | bare {letter : CodePoint} (isLetter : letter = 'e'.toNat ∨ letter = 'E'.toNat) :
      IsMark false [letter]
  | signed {letter : CodePoint} (isLetter : letter = 'e'.toNat ∨ letter = 'E'.toNat)
      (negative : Bool) : IsMark negative [letter, (if negative then '-' else '+').toNat]

def isSign (b : CodePoint) : Bool := b == '+'.toNat || b == '-'.toNat

/-- Behind a mark without a sign stands no sign. -/
def MarkEnds (mark r : Text) : Prop := mark.length = 1 → Token.startsWith isSign r = false

theorem markEnds_signed (b sign : CodePoint) (r : Text) : MarkEnds [b, sign] r := nofun

/-- A numeral whose parts can be written out. -/
structure Written (n : Numeral) : Prop where
  whole : IsWhole n.whole
  fraction : ∀ digits, n.fraction = some digits → AreDigits digits
  exponent : ∀ negative digits, n.exponent = some (negative, digits) → AreDigits digits

/-- The characters that would go on behind a numeral. -/
def goesOn (b : CodePoint) : Bool :=
  isDigit b || b == '.'.toNat || b == 'e'.toNat || b == 'E'.toNat

theorem AreDigits.head {t : Text} (digits : AreDigits t) (r : Text) :
    ∃ b, (t ++ r).head? = some b ∧ isDigit b = true := by
  obtain ⟨nonempty, all⟩ := digits
  cases t with
  | nil => exact absurd rfl nonempty
  | cons b bs => exact ⟨b, rfl, all b (by simp)⟩

theorem startsWith_head {isMember : CodePoint → Bool} {t : Text} {b : CodePoint}
    (head : t.head? = some b) : Token.startsWith isMember t = isMember b := by
  rw [Token.startsWith_eq, head]
  rfl

theorem markEnds_of_digit (mark : Text) {r : Text} {b : CodePoint} (head : r.head? = some b)
    (digit : isDigit b = true) : MarkEnds mark r := by
  intro _
  rw [startsWith_head head, isSign, Bool.or_eq_false_iff, beq_eq_false_iff_ne,
    beq_eq_false_iff_ne]
  constructor <;> rintro rfl <;> cases digit

theorem goesOn_false {r : Text} (stop : Token.startsWith goesOn r = false)
    {isMember : CodePoint → Bool} (narrower : ∀ b, isMember b = true → goesOn b = true) :
    Token.startsWith isMember r = false := by
  cases r with
  | nil => rfl
  | cons b bs =>
    have outside : goesOn b = false := stop
    exact Bool.eq_false_iff.mpr fun member => Bool.eq_false_iff.mp outside (narrower b member)

end Numeral

namespace Cursor

open Numeral

variable {c : Cursor} {r : Text}

theorem lex?_digits {digits : Text} (areDigits : AreDigits digits)
    (same : c.buffer = digits ++ r) (stop : Token.startsWith isDigit r = false) :
    c.lex? .digits = some (Token.whole digits, c.advance digits.length) := by
  refine lex?_eq_some_iff.mpr ⟨?_, rfl⟩
  rw [Token.match?, Token.run_iff.mpr ⟨areDigits.1, areDigits.2, r, same, stop⟩]
  rfl

theorem sign_text {negative : Bool} {t : Text}
    (unsigned : Token.startsWith (· == '-'.toNat) t = false)
    (same : c.buffer = Number.signed negative t) :
    ∃ d, c.sign = (negative, d) ∧ c.Spans (Number.signed negative []) d ∧ d.buffer = t := by
  cases negative with
  | true =>
    have minus : c.buffer = ['-'.toNat] ++ t := same
    have span := Spans.of_buffer minus
    refine ⟨_, ?_, span, Spans.buffer_advance minus⟩
    rw [sign, acceptChar?_iff.mpr span]
  | false =>
    have bare : c.buffer = t := same
    have none : c.acceptChar? '-' = none := acceptChar?_eq_none (by rw [bare, unsigned])
    exact ⟨c, by rw [sign, none], Spans.refl c, bare⟩

theorem wholeDigits_text {digits : Text} (isWhole : IsWhole digits)
    (same : c.buffer = digits ++ r) (stop : Token.startsWith isDigit r = false) :
    c.wholeDigits = (digits, c.advance digits.length) := by
  obtain ⟨⟨nonempty, all⟩, zero⟩ := isWhole
  have lexed : c.lex? .integer = some (Token.whole digits, c.advance digits.length) := by
    refine lex?_eq_some_iff.mpr ⟨?_, rfl⟩
    rw [same]
    cases digits with
    | nil => exact absurd rfl nonempty
    | cons b bs =>
      have others : (bs ++ r).takeWhile isDigit = bs :=
        Token.takeWhile_append (fun d member => all d (by simp [member])) stop
      simp only [List.cons_append, Token.match?]
      split
      · next isZero =>
        rw [isZero] at zero ⊢
        rw [zero rfl]
      · simp only [all b (by simp), if_true, others]
  rw [wholeDigits, lexed]
  rfl

theorem fraction_text {fraction : Option Text}
    (areDigits : ∀ digits, fraction = some digits → AreDigits digits)
    (same : c.buffer = fractionText fraction ++ r)
    (stop : Token.startsWith (fun b => isDigit b || b == '.'.toNat) r = false) :
    c.fraction = .ok (fraction, c.advance (fractionText fraction).length) := by
  have stops : Token.startsWith isDigit r = false ∧
      Token.startsWith (· == '.'.toNat) r = false := by
    cases r with
    | nil => exact ⟨rfl, rfl⟩
    | cons b bs =>
      simp only [Token.startsWith, Bool.or_eq_false_iff] at stop ⊢
      exact stop
  cases fraction with
  | none =>
    have none : c.acceptChar? '.' = none := acceptChar?_eq_none (by
      rw [same]
      exact stops.2)
    rw [Cursor.fraction, none, (Spans.refl c).2]
    simp [fractionText, advance]
  | some digits =>
    have point : c.buffer = ['.'.toNat] ++ (digits ++ r) := same
    have opened := Spans.of_buffer point
    have behind := Spans.buffer_advance point
    have lexed := lex?_digits (areDigits digits rfl) behind stops.1
    have reached : (c.advance 1).advance digits.length =
        c.advance (fractionText (some digits)).length :=
      (opened.trans (Spans.of_buffer behind)).2
    rw [Cursor.fraction, acceptChar?_iff.mpr opened]
    simp only [List.length_singleton] at lexed ⊢
    rw [lexed, reached]
    rfl

/-- The mark of an exponent with the sign behind it. -/
def markText (plus negative : Bool) : Text :=
  'e'.toNat :: (if negative then ['-'.toNat] else if plus then ['+'.toNat] else [])

theorem exponentText_some (plus negative : Bool) (digits : Text) :
    exponentText plus (some (negative, digits)) = markText plus negative ++ digits := by
  cases negative <;> rfl

theorem markText_isMark (plus negative : Bool) : IsMark negative (markText plus negative) := by
  cases negative with
  | true => exact .signed (.inl rfl) true
  | false =>
    cases plus with
    | true => exact .signed (.inl rfl) false
    | false => exact .bare (.inl rfl)

/-- A mark takes the sign behind its letter. -/
theorem exponentMark_iff {t : Text} {lexeme : Lexeme} :
    Token.exponentMark.match? t = some lexeme ↔ ∃ negative mark r, IsMark negative mark ∧
      t = mark ++ r ∧ lexeme = Token.whole mark ∧ MarkEnds mark r := by
  constructor
  · intro matched
    cases t with
    | nil => cases matched
    | cons b bs =>
      simp only [Token.match?] at matched
      split at matched
      · next letter =>
        cases bs with
        | nil =>
          cases matched
          exact ⟨false, [b], [], .bare letter, rfl, rfl, fun _ => rfl⟩
        | cons sign r =>
          dsimp only at matched
          split at matched
          · next isSign =>
            cases matched
            obtain rfl | rfl := isSign
            · exact ⟨false, _, r, .signed letter false, rfl, rfl, markEnds_signed _ _ r⟩
            · exact ⟨true, _, r, .signed letter true, rfl, rfl, markEnds_signed _ _ r⟩
          · next other =>
            cases matched
            rw [not_or] at other
            refine ⟨false, [b], sign :: r, .bare letter, rfl, rfl, fun _ => ?_⟩
            exact Bool.or_eq_false_iff.mpr
              ⟨beq_eq_false_iff_ne.mpr other.1, beq_eq_false_iff_ne.mpr other.2⟩
      · cases matched
  · rintro ⟨negative, mark, r, isMark, rfl, rfl, ends⟩
    cases isMark with
    | signed letter negative =>
      obtain rfl | rfl := letter <;> cases negative <;> rfl
    | bare letter =>
      have stop := ends rfl
      cases r with
      | nil => simp only [List.append_nil, Token.match?, if_pos letter]
      | cons sign r =>
        have other : ¬(sign = '+'.toNat ∨ sign = '-'.toNat) := by
          simpa [Token.startsWith, isSign] using stop
        simp only [List.cons_append, List.nil_append, Token.match?, if_pos letter, if_neg other]

theorem lex?_mark {negative : Bool} {mark t : Text} (isMark : IsMark negative mark)
    (ends : MarkEnds mark t) (same : c.buffer = mark ++ t) :
    c.lex? .exponentMark = some (Token.whole mark, c.advance mark.length) :=
  lex?_eq_some_iff.mpr ⟨exponentMark_iff.mpr ⟨_, _, t, isMark, same, rfl, ends⟩, rfl⟩

theorem mark_negative {negative : Bool} {mark : Text} (isMark : IsMark negative mark) :
    decide ('-'.toNat ∈ mark) = negative := by
  cases isMark with
  | bare letter => obtain rfl | rfl := letter <;> decide
  | signed letter negative => obtain rfl | rfl := letter <;> cases negative <;> decide

theorem exponent_text {plus : Bool} {exponent : Option (Bool × Text)}
    (areDigits : ∀ negative digits, exponent = some (negative, digits) → AreDigits digits)
    (same : c.buffer = exponentText plus exponent ++ r)
    (stop : Token.startsWith goesOn r = false) :
    c.exponent = .ok (exponent, c.advance (exponentText plus exponent).length) := by
  cases exponent with
  | none =>
    have none : c.lex? .exponentMark = none := by
      rw [lex?_eq_none_iff, same]
      cases r with
      | nil => rfl
      | cons b bs =>
        have other : ¬(b = 'e'.toNat ∨ b = 'E'.toNat) := by
          rintro (rfl | rfl) <;> cases stop
        exact if_neg other
    rw [Cursor.exponent, none]
    simp [exponentText, advance]
  | some pair =>
    obtain ⟨negative, digits⟩ := pair
    have inside := areDigits negative digits rfl
    rw [exponentText_some, List.append_assoc] at same
    obtain ⟨b, head, digit⟩ := inside.head r
    have isMark := markText_isMark plus negative
    have marked := lex?_mark isMark (markEnds_of_digit _ head digit) same
    have behind := Spans.buffer_advance same
    have lexed := lex?_digits inside behind
      (goesOn_false stop fun b digit => by simp [goesOn, digit])
    have reached : (c.advance (markText plus negative).length).advance digits.length =
        c.advance (exponentText plus (some (negative, digits))).length := by
      rw [exponentText_some]
      exact ((Spans.of_buffer same).trans (Spans.of_buffer behind)).2
    rw [Cursor.exponent, marked]
    simp only [lexed, reached]
    rw [Token.whole, mark_negative isMark]
    rfl

/-- A numeral in writing is read back. -/
theorem numeral_text {plus : Bool} {n : Numeral} (written : n.Written)
    (same : c.buffer = n.text plus ++ r) (stop : Token.startsWith goesOn r = false) :
    c.numeral = .ok (some n, c.advance (n.text plus).length) := by
  obtain ⟨negative, whole, fraction, exponent⟩ := n
  obtain ⟨isWhole, areFraction, areExponent⟩ := written
  simp only at isWhole areFraction areExponent
  have signedText : c.buffer = Number.signed negative
      (whole ++ (fractionText fraction ++ (exponentText plus exponent ++ r))) := by
    rw [same]
    cases negative <;> simp [text, unsignedText, Number.signed]
  obtain ⟨b, head, digit⟩ := isWhole.1.head (fractionText fraction ++ (exponentText plus exponent ++ r))
  have unsigned : Token.startsWith (· == '-'.toNat)
      (whole ++ (fractionText fraction ++ (exponentText plus exponent ++ r))) = false := by
    rw [startsWith_head head, beq_eq_false_iff_ne]
    rintro rfl
    cases digit
  obtain ⟨a, signRead, signSpan, behindSign⟩ := sign_text unsigned signedText
  -- What stands behind each part does not go on with it.
  have stopExponent : Token.startsWith (fun b => isDigit b || b == '.'.toNat)
      (exponentText plus exponent ++ r) = false := by
    cases exponent with
    | none => exact goesOn_false stop fun b other => by simp_all [goesOn]
    | some pair =>
      obtain ⟨negative, digits⟩ := pair
      cases negative <;> rfl
  have stopFraction : Token.startsWith isDigit
      (fractionText fraction ++ (exponentText plus exponent ++ r)) = false := by
    cases fraction with
    | none =>
      rw [Token.startsWith_eq] at stopExponent ⊢
      simp only [fractionText, List.nil_append]
      cases first : (exponentText plus exponent ++ r).head? with
      | none => rfl
      | some b =>
        rw [first] at stopExponent
        simp only [Option.any_some, Bool.or_eq_false_iff] at stopExponent ⊢
        exact stopExponent.1
    | some digits => rfl
  have wholeRead := wholeDigits_text isWhole behindSign stopFraction
  have behindWhole := Spans.buffer_advance behindSign
  have fractionRead := fraction_text areFraction behindWhole stopExponent
  have behindFraction := Spans.buffer_advance behindWhole
  have exponentRead := exponent_text areExponent behindFraction stop
  have reached := ((signSpan.trans (Spans.of_buffer behindSign)).trans
    (Spans.of_buffer behindWhole)).trans (Spans.of_buffer behindFraction)
  have spelled : ((Number.signed negative [] ++ whole) ++ fractionText fraction) ++
      exponentText plus exponent = text plus ⟨negative, whole, fraction, exponent⟩ := by
    cases negative <;> simp [text, unsignedText, Number.signed]
  rw [spelled] at reached
  have present : ¬(whole = [] ∧ fraction = none) := fun absent => isWhole.1.1 absent.1
  rw [numeral, signRead]
  simp only [wholeRead]
  rw [numeralBehind, fractionRead]
  simp only [if_neg present, exponentRead, reached.2]

/-- A number in writing is read back as what its numeral denotes. -/
theorem number_text {plus : Bool} {n : Numeral} {value : Number} (written : n.Written)
    (denotes : n.read = .ok value) (same : c.buffer = n.text plus ++ r)
    (stop : Token.startsWith goesOn r = false) :
    c.number = .ok (some value, c.advance (n.text plus).length) := by
  rw [number, numeral_text written same stop]
  simp only [denotes]

end Cursor

end PatternDispatch
