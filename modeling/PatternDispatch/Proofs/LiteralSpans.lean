import PatternDispatch.Proofs.CursorSpans

/-!
What the readers of literals pass over. A lexeme is a nonempty front of the text it is found in, so
a literal that is found ends further on, and one that is not found leaves the cursor alone. The
first character decides whether a literal begins.
-/

namespace PatternDispatch

open Character

namespace Token

theorem hexRun_spec {letter : Char} {count : Nat} {t : Text} {lexeme : Lexeme}
    (found : hexRun letter count t = some lexeme) : lexeme.text ≠ [] ∧ lexeme.text <+: t := by
  unfold hexRun at found
  split at found
  · simp only [Option.ite_none_right_eq_some, Option.some.injEq] at found
    obtain ⟨-, rfl⟩ := found
    exact ⟨by simp, (List.prefix_cons_inj _).mpr ((List.prefix_cons_inj _).mpr
      (List.take_prefix _ _))⟩
  · cases found

theorem escape_spec {isEscaped : CodePoint → Bool} {t : Text} {lexeme : Lexeme}
    (found : escape isEscaped t = some lexeme) : lexeme.text ≠ [] ∧ lexeme.text <+: t := by
  unfold escape at found
  split at found
  · simp only [Option.ite_none_right_eq_some, Option.some.injEq] at found
    obtain ⟨-, rfl⟩ := found
    exact ⟨by simp, _, rfl⟩
  · cases found

theorem run_spec {isMember : CodePoint → Bool} {t : Text} {lexeme : Lexeme}
    (found : (run isMember t).map whole = some lexeme) :
    lexeme.text ≠ [] ∧ lexeme.text <+: t := by
  obtain ⟨w, ran, rfl⟩ := Option.map_eq_some_iff.mp found
  obtain ⟨nonempty, -, r, rfl, -⟩ := run_iff.mp ran
  exact ⟨nonempty, List.prefix_append _ _⟩

theorem name_spec {isFirst : CodePoint → Bool} {t n : Text} (found : name isFirst t = some n) :
    n ≠ [] ∧ n <+: t := by
  obtain ⟨⟨c, cs, rfl, -⟩, r, rfl, -⟩ := name_iff.mp found
  exact ⟨by simp, List.prefix_append _ _⟩

theorem word_spec {w t : Text} (found : word w t = true) : w <+: t := by
  obtain ⟨r, rfl, -⟩ := word_iff.mp found
  exact List.prefix_append _ _

/-- A lexeme is a nonempty front of its text. -/
theorem match?_spec {token : Token} {t : Text} {lexeme : Lexeme}
    (found : token.match? t = some lexeme) : lexeme.text ≠ [] ∧ lexeme.text <+: t := by
  cases token with
  | undefinedWord | nullWord =>
    simp only [match?, Option.ite_none_right_eq_some, Option.some.injEq] at found
    obtain ⟨isWord, rfl⟩ := found
    exact ⟨by decide, word_spec isWord⟩
  | booleanWord =>
    simp only [match?] at found
    split at found
    · next isWord => cases found; exact ⟨by decide, word_spec isWord⟩
    · split at found
      · next isWord => cases found; exact ⟨by decide, word_spec isWord⟩
      · cases found
  | identifier | key | className =>
    obtain ⟨n, named, rfl⟩ := Option.map_eq_some_iff.mp found
    exact name_spec named
  | extractorName =>
    simp only [match?] at found
    split at found
    · cases found
    · simp only [Option.ite_none_right_eq_some, Option.map_eq_some_iff] at found
      obtain ⟨-, n, named, rfl⟩ := found
      exact ⟨by simp, (List.prefix_cons_inj _).mpr (name_spec named).2⟩
  | blanks | doubleQuoted | singleQuoted | digits => exact run_spec found
  | nulEscape =>
    simp only [match?] at found
    split at found
    · simp only [Option.ite_none_right_eq_some, Option.some.injEq] at found
      obtain ⟨-, rfl⟩ := found
      exact ⟨by simp [whole], _, rfl⟩
    · cases found
  | hexEscape | unicodeEscape => exact hexRun_spec found
  | characterEscape | anyEscape => exact escape_spec found
  | integer =>
    simp only [match?] at found
    split at found
    · cases found
    · next c cs =>
      split at found
      · cases found
        exact ⟨by simp [whole], _, rfl⟩
      · split at found
        · cases found
          exact ⟨by simp [whole], (List.prefix_cons_inj _).mpr (List.takeWhile_prefix _)⟩
        · cases found
  | exponentMark =>
    simp only [match?] at found
    split at found
    · cases found
    · next c cs =>
      split at found
      · split at found
        · cases found
          exact ⟨by simp [whole], _, rfl⟩
        · split at found <;> cases found <;> exact ⟨by simp [whole], _, rfl⟩
      · cases found
  | postfixRest =>
    simp only [match?] at found
    split at found
    · cases found
    · split at found
      · cases found
      · next n named =>
        simp only [Option.ite_none_right_eq_some, Option.some.injEq] at found
        obtain ⟨dotted, rfl⟩ := found
        obtain ⟨nonempty, r, rfl⟩ := name_spec named
        rw [List.drop_left, List.isPrefixOf_iff_prefix] at dotted
        obtain ⟨s, rfl⟩ := dotted
        exact ⟨by simp [nonempty], s, by rw [List.append_assoc]⟩

/-- The forms of an escape. -/
def escapes : List Token := [.nulEscape, .hexEscape, .unicodeEscape, .characterEscape, .anyEscape]

theorem mem_escapes {token : Token} : token ∈ escapes ↔ token = .nulEscape ∨ token = .hexEscape ∨
    token = .unicodeEscape ∨ token = .characterEscape ∨ token = .anyEscape := by
  simp only [escapes, List.mem_cons, List.not_mem_nil, or_false]

/-- An escape begins with a backslash and has a character behind it. -/
theorem escape_begins {token : Token} (isEscape : token ∈ escapes) {t : Text} {lexeme : Lexeme}
    (found : token.match? t = some lexeme) :
    t.head? = some '\\'.toNat ∧ 2 ≤ lexeme.text.length := by
  rw [mem_escapes] at isEscape
  match t with
  | [] | [_] => rcases isEscape with rfl | rfl | rfl | rfl | rfl <;> cases found
  | first :: second :: cs =>
    rcases isEscape with rfl | rfl | rfl | rfl | rfl <;>
      simp only [match?, hexRun, escape, Option.ite_none_right_eq_some,
        Option.some.injEq] at found <;>
      obtain ⟨⟨rfl, -⟩, rfl⟩ := found <;> simp [whole]

end Token

namespace Cursor

variable {c d : Cursor}

theorem lex?_spans {token : Token} {lexeme : Lexeme} (found : c.lex? token = some (lexeme, d)) :
    lexeme.text ≠ [] ∧ c.Spans lexeme.text d := by
  obtain ⟨matched, rfl⟩ := lex?_eq_some_iff.mp found
  obtain ⟨nonempty, begins⟩ := Token.match?_spec matched
  exact ⟨nonempty, begins, rfl⟩

/-- One place is reached from another by passing over text. -/
def Reaches (c d : Cursor) : Prop := ∃ w, c.Spans w d

/-- One place is reached from another by passing over some text. -/
def Passes (c d : Cursor) : Prop := ∃ w, w ≠ [] ∧ c.Spans w d

theorem Reaches.refl (c : Cursor) : c.Reaches c := ⟨[], Spans.refl c⟩

theorem Passes.reaches (passes : c.Passes d) : c.Reaches d := by
  obtain ⟨w, -, span⟩ := passes
  exact ⟨w, span⟩

theorem Reaches.trans {e : Cursor} (first : c.Reaches d) (second : d.Reaches e) :
    c.Reaches e := by
  obtain ⟨v, spanV⟩ := first
  obtain ⟨w, spanW⟩ := second
  exact ⟨v ++ w, spanV.trans spanW⟩

theorem Passes.trans_reaches {e : Cursor} (first : c.Passes d) (second : d.Reaches e) :
    c.Passes e := by
  obtain ⟨v, nonempty, spanV⟩ := first
  obtain ⟨w, spanW⟩ := second
  exact ⟨v ++ w, by simp [nonempty], spanV.trans spanW⟩

theorem Reaches.trans_passes {e : Cursor} (first : c.Reaches d) (second : d.Passes e) :
    c.Passes e := by
  obtain ⟨v, spanV⟩ := first
  obtain ⟨w, nonempty, spanW⟩ := second
  exact ⟨v ++ w, by simp [nonempty], spanV.trans spanW⟩

theorem Reaches.length_le (reaches : c.Reaches d) : d.buffer.length ≤ c.buffer.length := by
  obtain ⟨w, span⟩ := reaches
  exact span.length_le

theorem Passes.length_lt (passes : c.Passes d) : d.buffer.length < c.buffer.length := by
  obtain ⟨w, nonempty, span⟩ := passes
  exact span.length_lt nonempty

theorem lex?_passes {token : Token} {lexeme : Lexeme} (found : c.lex? token = some (lexeme, d)) :
    c.Passes d := ⟨_, lex?_spans found⟩

theorem acceptChar?_passes {char : Char} (found : c.acceptChar? char = some d) : c.Passes d :=
  ⟨_, by simp, acceptChar?_iff.mp found⟩

/-! ## Strings -/

theorem lexEscape?_some {tokens : List Token} {meaning : Text}
    (found : c.lexEscape? tokens = some (meaning, d)) :
    ∃ token ∈ tokens, ∃ lexeme, c.lex? token = some (lexeme, d) := by
  induction tokens with
  | nil => cases found
  | cons token tokens ih =>
    unfold lexEscape? at found
    split at found
    · next lexeme next lexed =>
      cases found
      exact ⟨token, List.mem_cons_self, lexeme, lexed⟩
    · obtain ⟨other, member, lexed⟩ := ih found
      exact ⟨other, List.mem_cons_of_mem _ member, lexed⟩

theorem lexEscape?_none {tokens : List Token}
    (absent : ∀ token ∈ tokens, token.match? c.buffer = none) : c.lexEscape? tokens = none := by
  induction tokens with
  | nil => rfl
  | cons token tokens ih =>
    rw [lexEscape?, lex?_eq_none_iff.mpr (absent token List.mem_cons_self)]
    exact ih fun other member => absent other (List.mem_cons_of_mem _ member)

theorem lexEscape?_passes {tokens : List Token} {meaning : Text}
    (found : c.lexEscape? tokens = some (meaning, d)) : c.Passes d := by
  obtain ⟨token, -, lexeme, lexed⟩ := lexEscape?_some found
  exact lex?_passes lexed

theorem escape?_none (other : c.buffer.head? ≠ some '\\'.toNat) : c.escape? = none := by
  refine lexEscape?_none fun token isEscape => Option.eq_none_iff_forall_ne_some.mpr ?_
  intro lexeme matched
  exact other (Token.escape_begins isEscape matched).1

theorem stringBody_reaches (plain : Token) (limit : Nat) (c : Cursor) :
    c.Reaches (stringBody plain limit c).2 := by
  induction limit generalizing c with
  | zero => exact Reaches.refl c
  | succ limit ih =>
    unfold stringBody
    split
    · next lexeme next lexed => exact (lex?_passes lexed).reaches.trans (ih next)
    · split
      · next meaning next escaped => exact (lexEscape?_passes escaped).reaches.trans (ih next)
      · exact Reaches.refl c

theorem quotedBy_none {quote : Char} {plain : Token}
    (nothing : c.quotedBy quote plain = .ok (none, d)) :
    d = c ∧ c.acceptChar? quote = none := by
  unfold quotedBy at nothing
  split at nothing
  · next absent => cases nothing; exact ⟨rfl, absent⟩
  · dsimp only at nothing
    split at nothing <;> cases nothing

theorem quotedBy_some {quote : Char} {plain : Token} {body : Text}
    (found : c.quotedBy quote plain = .ok (some body, d)) : c.Passes d := by
  unfold quotedBy at found
  split at found
  · cases found
  · next opened opens =>
    dsimp only at found
    split at found
    · cases found
    · next closed closes =>
      cases found
      exact ((acceptChar?_passes opens).trans_reaches (stringBody_reaches _ _ _)).trans_reaches
        (acceptChar?_passes closes).reaches

theorem string_none (nothing : c.string = .ok (none, d)) : d = c := by
  unfold string at nothing
  split at nothing
  · next next absent =>
    obtain ⟨rfl, -⟩ := quotedBy_none absent
    exact (quotedBy_none nothing).1
  · next found => exact absurd nothing (found d)

theorem string_some {value : Text} (found : c.string = .ok (some value, d)) : c.Passes d := by
  unfold string at found
  split at found
  · next next absent =>
    obtain ⟨rfl, -⟩ := quotedBy_none absent
    exact quotedBy_some found
  · exact quotedBy_some found

/-- The quotes that a string can begin with. -/
def isQuote (b : CodePoint) : Bool := b == '"'.toNat || b == '\''.toNat

theorem string_of_not_quote (other : Token.startsWith isQuote c.buffer = false) :
    c.string = .ok (none, c) := by
  have double : c.acceptChar? '"' = none := acceptChar?_eq_none (by
    rw [Token.startsWith_eq] at other ⊢
    cases same : c.buffer.head? <;> simp_all [isQuote])
  have single : c.acceptChar? '\'' = none := acceptChar?_eq_none (by
    rw [Token.startsWith_eq] at other ⊢
    cases same : c.buffer.head? <;> simp_all [isQuote])
  simp [string, quotedBy, double, single]

/-! ## Numbers -/

theorem fraction_none (nothing : c.fraction = .ok (none, d)) : d = c := by
  unfold fraction at nothing
  split at nothing
  · cases nothing; rfl
  · split at nothing <;> cases nothing

theorem fraction_some {digits : Text} (found : c.fraction = .ok (some digits, d)) : c.Passes d := by
  unfold fraction at found
  split at found
  · cases found
  · next next accepted =>
    split at found
    · cases found
    · next lexed =>
      cases found
      exact (acceptChar?_passes accepted).trans_reaches (lex?_passes lexed).reaches

theorem exponent_reaches {found : Option (Bool × Text)} (read : c.exponent = .ok (found, d)) :
    c.Reaches d := by
  unfold exponent at read
  split at read
  · cases read; exact Reaches.refl c
  · next marked =>
    split at read
    · cases read
    · next lexed =>
      cases read
      exact (lex?_passes marked).reaches.trans (lex?_passes lexed).reaches

theorem sign_reaches (c : Cursor) : c.Reaches c.sign.2 := by
  unfold sign
  split
  · exact Reaches.refl c
  · next accepted => exact (acceptChar?_passes accepted).reaches

theorem wholeDigits_spans (c : Cursor) : c.Spans c.wholeDigits.1 c.wholeDigits.2 := by
  unfold wholeDigits
  split
  · exact Spans.refl c
  · next lexed => exact (lex?_spans lexed).2

/-- The ways in which the parts of a number are read. -/
inductive Course (c : Cursor) : Reading Numeral → Prop
  | badFraction {e : ParseError} (failed : c.sign.2.wholeDigits.2.fraction = .error e) :
      Course c (.error e)
  | lone {d : Cursor} (minus : c.sign.1 = true) (noDigits : c.sign.2.wholeDigits.1 = [])
      (noFraction : c.sign.2.wholeDigits.2.fraction = .ok (none, d)) :
      Course c (.error (.malformed .expectedNumber d))
  | absent {d : Cursor} (unsigned : c.sign.1 = false) (noDigits : c.sign.2.wholeDigits.1 = [])
      (noFraction : c.sign.2.wholeDigits.2.fraction = .ok (none, d)) : Course c (.ok (none, c))
  | badExponent {fraction : Option Text} {d : Cursor} {e : ParseError}
      (present : ¬(c.sign.2.wholeDigits.1 = [] ∧ fraction = none))
      (readFraction : c.sign.2.wholeDigits.2.fraction = .ok (fraction, d))
      (failed : d.exponent = .error e) : Course c (.error e)
  | found {fraction : Option Text} {exponent : Option (Bool × Text)} {d last : Cursor}
      (present : ¬(c.sign.2.wholeDigits.1 = [] ∧ fraction = none))
      (readFraction : c.sign.2.wholeDigits.2.fraction = .ok (fraction, d))
      (readExponent : d.exponent = .ok (exponent, last)) :
      Course c (.ok (some ⟨c.sign.1, c.sign.2.wholeDigits.1, fraction, exponent⟩, last))

theorem numeral_course (c : Cursor) : Course c c.numeral := by
  rw [numeral, numeralBehind]
  split
  · next failed => exact .badFraction failed
  · next readFraction =>
    split
    · next missing =>
      obtain ⟨noDigits, rfl⟩ := missing
      split
      · next minus => exact .lone minus noDigits readFraction
      · next unsigned => exact .absent (Bool.eq_false_iff.mpr unsigned) noDigits readFraction
    · next present =>
      split
      · next failed => exact .badExponent present readFraction failed
      · next readExponent => exact .found present readFraction readExponent

theorem numeral_none (nothing : c.numeral = .ok (none, d)) : d = c := by
  have course := numeral_course c
  rw [nothing] at course
  cases course
  rfl

/-- A numeral that is found has digits before its point or behind it. -/
theorem numeral_some {found : Numeral} (read : c.numeral = .ok (some found, d)) : c.Passes d := by
  have course := numeral_course c
  rw [read] at course
  cases course with
  | @found fraction exponent afterFraction _ present readFraction readExponent =>
    have digits := wholeDigits_spans c.sign.2
    have start := (sign_reaches c).trans ⟨_, digits⟩
    refine Passes.trans_reaches ?_ (exponent_reaches readExponent)
    cases fraction with
    | some text => exact start.trans_passes (fraction_some readFraction)
    | none =>
      obtain rfl := fraction_none readFraction
      exact (sign_reaches c).trans_passes ⟨_, fun empty => present ⟨empty, rfl⟩, digits⟩

theorem number_none (nothing : c.number = .ok (none, d)) : d = c := by
  unfold number at nothing
  split at nothing
  · cases nothing
  · next read => cases nothing; exact numeral_none read
  · split at nothing <;> cases nothing

theorem number_some {value : Number} (found : c.number = .ok (some value, d)) : c.Passes d := by
  unfold number at found
  split at found
  · cases found
  · cases found
  · next read =>
    split at found
    · cases found
    · cases found; exact numeral_some read

theorem wholeDigits_of_no_digit (other : Token.startsWith isDigit c.buffer = false) :
    c.wholeDigits = ([], c) := by
  have absent : c.lex? .integer = none := by
    rw [lex?_eq_none_iff]
    cases same : c.buffer with
    | nil => rfl
    | cons b bs =>
      have noDigit : isDigit b = false := by simpa [same, Token.startsWith] using other
      have notZero : b ≠ '0'.toNat := by rintro rfl; exact absurd noDigit (by decide)
      simp only [Token.match?, if_neg notZero, noDigit, Bool.false_eq_true, if_false]
  rw [wholeDigits, absent]

/-- The characters that a number can begin with. -/
def isNumberStart (b : CodePoint) : Bool := isDigit b || b == '-'.toNat || b == '.'.toNat

theorem number_of_not_start (other : Token.startsWith isNumberStart c.buffer = false) :
    c.number = .ok (none, c) := by
  have others : Token.startsWith isDigit c.buffer = false ∧
      Token.startsWith (· == '-'.toNat) c.buffer = false ∧
      Token.startsWith (· == '.'.toNat) c.buffer = false := by
    simp only [Token.startsWith_eq] at other ⊢
    cases same : c.buffer.head? <;> simp_all [isNumberStart]
  have unsigned : c.sign = (false, c) := by rw [sign, acceptChar?_eq_none others.2.1]
  have noDigits := wholeDigits_of_no_digit others.1
  have noFraction : c.fraction = .ok (none, c) := by
    rw [fraction, acceptChar?_eq_none others.2.2]
  simp [number, numeral, numeralBehind, unsigned, noDigits, noFraction]

end Cursor

end PatternDispatch
