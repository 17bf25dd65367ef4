import PatternDispatch.Proofs.DigitText
import PatternDispatch.Proofs.LiteralSpans
import PatternDispatch.Text.Quoted

/-!
Quoted text is read back. A string body is read in pieces, each a run of characters that stand for
themselves or one escape; the escape of a character denotes that character. What is written in
quotes is free of controls and of the characters from U+0080 to U+FFFF, surrogates among them.
-/

namespace PatternDispatch

open Character Text

namespace Text

/-- A character that is quoted as itself. -/
def isRaw (c : CodePoint) : Bool := escaped c == [c]

/-- A character that stands for itself between double quotes. -/
def isPlain (c : CodePoint) : Bool := !(c == '"'.toNat || c == '\\'.toNat || Token.isNewline c)

theorem escaped_of_raw {c : CodePoint} (raw : isRaw c = true) : escaped c = [c] := by
  simpa [isRaw] using raw

theorem isPlain_of_raw {c : CodePoint} (raw : isRaw c = true) : isPlain c = true := by
  simp only [isPlain, Token.isNewline, Bool.not_eq_true', Bool.or_eq_false_iff, beq_eq_false_iff_ne]
  refine ⟨⟨?_, ?_⟩, ?_⟩ <;> rintro rfl <;> cases raw

/-- The ways in which a character is quoted. -/
inductive Escaped (c : CodePoint) : Prop where
  | raw : isRaw c = true → Escaped c
  | letter (l : CodePoint) : Token.isEscapeLetter l = true → Cursor.escapeValue l = c →
      l ≠ '0'.toNat ∧ l ≠ 'x'.toNat ∧ l ≠ 'u'.toNat → escaped c = ['\\'.toNat, l] → Escaped c
  | hex : c < 16 ^ 2 → escaped c = '\\'.toNat :: 'x'.toNat :: hex 2 c → Escaped c
  | unicode : c < 16 ^ 4 → escaped c = '\\'.toNat :: 'u'.toNat :: Text.hex 4 c → Escaped c

theorem escaped_cases (c : CodePoint) : Escaped c := by
  by_cases backslash : c = '\\'.toNat
  · subst backslash; exact .letter '\\'.toNat rfl rfl (by decide) rfl
  by_cases quote : c = '"'.toNat
  · subst quote; exact .letter '"'.toNat rfl rfl (by decide) rfl
  by_cases backspace : c = 0x08
  · subst backspace; exact .letter 'b'.toNat rfl rfl (by decide) rfl
  by_cases tab : c = 0x09
  · subst tab; exact .letter 't'.toNat rfl rfl (by decide) rfl
  by_cases newline : c = 0x0a
  · subst newline; exact .letter 'n'.toNat rfl rfl (by decide) rfl
  by_cases formFeed : c = 0x0c
  · subst formFeed; exact .letter 'f'.toNat rfl rfl (by decide) rfl
  by_cases carriage : c = 0x0d
  · subst carriage; exact .letter 'r'.toNat rfl rfl (by decide) rfl
  have others : escaped c =
      if c < 0x20 ∨ (0x80 ≤ c ∧ c ≤ 0xff) then ofString "\\x" ++ Text.hex 2 c
      else if 0x100 ≤ c ∧ c ≤ 0xffff then ofString "\\u" ++ Text.hex 4 c
      else [c] := by
    rw [escaped, if_neg backslash, if_neg quote, if_neg backspace, if_neg tab, if_neg newline,
      if_neg formFeed, if_neg carriage]
  split at others
  · next short => exact .hex (by unfold CodePoint at *; omega) others
  · split at others
    · next long => exact .unicode (by unfold CodePoint at *; omega) others
    · exact .raw (by rw [isRaw, others]; exact beq_self_eq_true _)

/-- Neither a control character below U+0020 nor one from U+0080 to U+FFFF. -/
def IsClean (b : CodePoint) : Prop := 0x20 ≤ b ∧ ¬(0x80 ≤ b ∧ b ≤ 0xffff)

instance (b : CodePoint) : Decidable (IsClean b) := inferInstanceAs (Decidable (_ ∧ _))

theorem isClean_of_raw {c : CodePoint} (raw : isRaw c = true) : IsClean c := by
  rw [isRaw, escaped, beq_iff_eq] at raw
  split_ifs at raw with _ _ _ _ _ _ _ short long
  -- Each of the nine escapes is longer than the character.
  iterate 9 exact absurd (congrArg List.length raw) (by simp [ofString])
  unfold IsClean CodePoint at *
  omega

theorem isClean_of_hexDigit {b : CodePoint} (digit : isHexDigit b = true) : IsClean b := by
  simp only [isHexDigit, isDigit, Bool.or_eq_true, Bool.and_eq_true, decide_eq_true_eq,
    Char.reduceToNat] at digit
  unfold IsClean CodePoint at *
  omega

theorem isClean_of_escapeLetter {b : CodePoint} (letter : Token.isEscapeLetter b = true) :
    IsClean b := by
  have letters : ∀ b ∈ ofString "'\"\\bfnrtv", IsClean b := by decide
  exact letters b (of_decide_eq_true letter)

/-- A hexadecimal escape is a backslash, a letter and hexadecimal digits. -/
theorem isClean_of_hexEscape {b l : CodePoint} {width n : Nat} (clean : IsClean l)
    (member : b ∈ '\\'.toNat :: l :: hex width n) : IsClean b := by
  simp only [List.mem_cons] at member
  obtain rfl | rfl | digit := member
  · decide
  · exact clean
  · exact isClean_of_hexDigit (hex_isHexDigit width n b digit)

theorem isClean_of_escaped {b c : CodePoint} (member : b ∈ escaped c) : IsClean b := by
  cases escaped_cases c with
  | raw raw =>
    rw [escaped_of_raw raw, List.mem_singleton] at member
    rw [member]
    exact isClean_of_raw raw
  | letter l isLetter _ _ spelled =>
    rw [spelled, List.mem_pair] at member
    obtain rfl | rfl := member
    · decide
    · exact isClean_of_escapeLetter isLetter
  | hex _ spelled =>
    rw [spelled] at member
    exact isClean_of_hexEscape (by decide) member
  | unicode _ spelled =>
    rw [spelled] at member
    exact isClean_of_hexEscape (by decide) member

theorem isClean_of_quoted {b : CodePoint} {t : Text} (member : b ∈ quoted t) : IsClean b := by
  rw [quoted, List.mem_cons, List.mem_append, List.mem_flatMap, List.mem_singleton] at member
  obtain rfl | ⟨c, -, inside⟩ | rfl := member
  · decide
  · exact isClean_of_escaped inside
  · decide

/-- What is not quoted as itself begins with a backslash. -/
theorem escaped_head {c : CodePoint} (notRaw : isRaw c = false) :
    ∃ t, escaped c = '\\'.toNat :: t := by
  cases escaped_cases c with
  | raw raw => rw [raw] at notRaw; cases notRaw
  | letter l _ _ _ same => exact ⟨_, same⟩
  | hex _ same => exact ⟨_, same⟩
  | unicode _ same => exact ⟨_, same⟩

end Text

namespace Cursor

variable {c : Cursor} {r : Text}

/-- Hexadecimal digits of the right number behind a backslash and a letter. -/
theorem hexRun_hex {letter : Char} {width n : Nat} :
    Token.hexRun letter width ('\\'.toNat :: letter.toNat :: (hex width n ++ r)) =
      some ⟨'\\'.toNat :: letter.toNat :: hex width n, some (hex width n)⟩ := by
  have taken : (hex width n ++ r).take width = hex width n := by
    rw [List.take_append_of_le_length (by rw [length_hex]), List.take_of_length_le
      (by rw [length_hex])]
  have digits : (hex width n).all isHexDigit = true := List.all_eq_true.mpr (hex_isHexDigit width n)
  simp only [Token.hexRun, taken, length_hex, digits, and_self, if_true]

theorem hexRun_other {letter : Char} {width : Nat} {second : CodePoint}
    (other : second ≠ letter.toNat) :
    Token.hexRun letter width ('\\'.toNat :: second :: r) = none := by
  simp only [Token.hexRun]
  rw [if_neg fun fits => other fits.2.1]

theorem hexEscape_other {second : CodePoint} (other : second ≠ 'x'.toNat) :
    Token.hexEscape.match? ('\\'.toNat :: second :: r) = none := hexRun_other other

theorem unicodeEscape_other {second : CodePoint} (other : second ≠ 'u'.toNat) :
    Token.unicodeEscape.match? ('\\'.toNat :: second :: r) = none := hexRun_other other

theorem nulEscape_other {second : CodePoint} (other : second ≠ '0'.toNat) :
    Token.nulEscape.match? ('\\'.toNat :: second :: r) = none := by
  simp only [Token.match?]
  rw [if_neg fun fits => other fits.2.1]

theorem lexEscape?_skip {token : Token} {tokens : List Token} {t : Text} (same : c.buffer = t)
    (absent : token.match? t = none) : c.lexEscape? (token :: tokens) = c.lexEscape? tokens := by
  rw [lexEscape?, lex?_eq_none_iff.mpr (by rw [same, absent])]

theorem lexEscape?_found {token : Token} {tokens : List Token} {t : Text} {lexeme : Lexeme}
    (same : c.buffer = t) (found : token.match? t = some lexeme) :
    c.lexEscape? (token :: tokens) =
      some (escapeMeaning token lexeme, c.advance lexeme.text.length) := by
  rw [lexEscape?, lex?_eq_some_iff.mpr ⟨by rw [same, found], rfl⟩]

/-- The escape of a character denotes it. -/
theorem escape?_escaped {x : CodePoint} (notRaw : isRaw x = false)
    (same : c.buffer = escaped x ++ r) :
    c.escape? = some ([x], c.advance (escaped x).length) := by
  unfold escape?
  cases escaped_cases x with
  | raw raw => rw [raw] at notRaw; cases notRaw
  | letter l isLetter value others spelled =>
    rw [spelled] at same ⊢
    have found : Token.characterEscape.match? ('\\'.toNat :: l :: r) =
        some ⟨['\\'.toNat, l], some [l]⟩ := by
      simp only [Token.match?, Token.escape, isLetter, and_self, if_true]
    rw [lexEscape?_skip same (nulEscape_other others.1),
      lexEscape?_skip same (hexEscape_other others.2.1),
      lexEscape?_skip same (unicodeEscape_other others.2.2), lexEscape?_found same found]
    simp [escapeMeaning, Lexeme.value, value]
  | hex small spelled =>
    rw [spelled] at same ⊢
    have found : Token.hexEscape.match? ('\\'.toNat :: 'x'.toNat :: (hex 2 x ++ r)) =
        some ⟨'\\'.toNat :: 'x'.toNat :: hex 2 x, some (hex 2 x)⟩ := hexRun_hex
    rw [lexEscape?_skip same (nulEscape_other (by decide)), lexEscape?_found same found]
    simp [escapeMeaning, Lexeme.value, readHex_hex small]
  | unicode small spelled =>
    rw [spelled] at same ⊢
    have found : Token.unicodeEscape.match? ('\\'.toNat :: 'u'.toNat :: (hex 4 x ++ r)) =
        some ⟨'\\'.toNat :: 'u'.toNat :: hex 4 x, some (hex 4 x)⟩ := hexRun_hex
    rw [lexEscape?_skip same (nulEscape_other (by decide)),
      lexEscape?_skip same (hexEscape_other (by decide)), lexEscape?_found same found]
    simp [escapeMeaning, Lexeme.value, readHex_hex small]

theorem lex?_doubleQuoted_none {b : CodePoint} (head : c.buffer.head? = some b)
    (notPlain : isPlain b = false) : c.lex? .doubleQuoted = none := by
  rw [lex?_eq_none_iff, Token.match?, Token.run_eq_none_iff.mpr]
  · rfl
  · rw [Token.startsWith_eq, head]
    exact notPlain

/-- A run of characters quoted as themselves is one piece when none follows. -/
theorem lex?_doubleQuoted_raw {w : Text} (nonempty : w ≠ []) (raw : ∀ x ∈ w, isRaw x = true)
    (same : c.buffer = w ++ r) (stop : Token.startsWith isPlain r = false) :
    c.lex? .doubleQuoted = some (Token.whole w, c.advance w.length) := by
  refine lex?_eq_some_iff.mpr ⟨?_, rfl⟩
  have ran : Token.run isPlain c.buffer = some w :=
    Token.run_iff.mpr ⟨nonempty, fun x member => isPlain_of_raw (raw x member), r, same, stop⟩
  exact congrArg (Option.map Token.whole) ran

theorem flatMap_escaped_raw {w : Text} (raw : ∀ x ∈ w, isRaw x = true) : w.flatMap escaped = w := by
  induction w with
  | nil => rfl
  | cons x w ih =>
    rw [List.flatMap_cons, escaped_of_raw (raw x (by simp)),
      ih fun y member => raw y (by simp [member])]
    rfl

/-- The quoted form of what a run of raw characters leaves cannot continue the run. -/
theorem not_plain_behind {t : Text} (stop : Token.startsWith isRaw t = false) :
    Token.startsWith isPlain (t.flatMap escaped ++ '"'.toNat :: r) = false := by
  cases t with
  | nil => rfl
  | cons x t =>
    obtain ⟨u, same⟩ := escaped_head stop
    rw [List.flatMap_cons, same]
    rfl

/-- A quoted text is read back piece by piece. -/
theorem stringBody_escaped {limit : Nat} {c : Cursor} {t : Text} (enough : t.length ≤ limit)
    (same : c.buffer = t.flatMap escaped ++ '"'.toNat :: r) :
    stringBody .doubleQuoted limit c = (t, c.advance (t.flatMap escaped).length) := by
  induction limit generalizing c t with
  | zero =>
    obtain rfl := List.length_eq_zero_iff.mp (Nat.le_zero.mp enough)
    simp [stringBody, advance]
  | succ limit ih =>
    obtain ⟨u, whole, raw, stop⟩ := Token.exists_takeWhile isRaw t
    generalize t.takeWhile isRaw = w at whole raw
    subst whole
    rw [List.flatMap_append, flatMap_escaped_raw raw] at same ⊢
    rw [List.append_assoc] at same
    cases w with
    | cons x w =>
      -- A run of raw characters comes first.
      have lexed := lex?_doubleQuoted_raw (by simp) raw same (not_plain_behind stop)
      have behind := Spans.buffer_advance same
      have short : u.length ≤ limit := by
        simp only [List.cons_append, List.length_cons, List.length_append] at enough
        omega
      have reached := (Spans.of_buffer same).trans (Spans.of_buffer behind)
      simp only [stringBody, lexed, ih short behind, Token.whole, reached.2]
    | nil =>
      cases u with
      | nil =>
        have closes : c.buffer.head? = some '"'.toNat := by rw [same]; rfl
        have noEscape : c.escape? = none := escape?_none (by rw [closes]; decide)
        simp [stringBody, lex?_doubleQuoted_none closes rfl, noEscape, advance]
      | cons x u =>
        -- One escape comes first.
        simp only [List.nil_append, List.flatMap_cons, List.append_assoc] at same ⊢
        obtain ⟨v, begins⟩ := escaped_head stop
        have head : c.buffer.head? = some '\\'.toNat := by rw [same, begins]; rfl
        have escapes := escape?_escaped stop same
        have behind := Spans.buffer_advance same
        have short : u.length ≤ limit := by
          simp only [List.nil_append, List.length_cons] at enough
          omega
        have reached := (Spans.of_buffer same).trans (Spans.of_buffer behind)
        simp only [stringBody, lex?_doubleQuoted_none head rfl, escapes, ih short behind, reached.2]
        rfl

theorem length_le_escaped (t : Text) : t.length ≤ (t.flatMap escaped).length := by
  induction t with
  | nil => rfl
  | cons x t ih =>
    have one : 1 ≤ (escaped x).length := by
      cases escaped_cases x with
      | raw raw => rw [escaped_of_raw raw]; rfl
      | letter _ _ _ _ same => rw [same]; simp
      | hex _ same => rw [same]; simp
      | unicode _ same => rw [same]; simp
    simp only [List.flatMap_cons, List.length_cons, List.length_append]
    omega

/-- A text is read back from its quotes. -/
theorem string_quoted {t : Text} (same : c.buffer = quoted t ++ r) :
    c.string = .ok (some t, c.advance (quoted t).length) := by
  have opens : c.buffer = ['"'.toNat] ++ (t.flatMap escaped ++ '"'.toNat :: r) := by
    rw [same, quoted]
    simp
  have behind := Spans.buffer_advance opens
  have enough : t.length ≤ (c.advance ['"'.toNat].length).buffer.length := by
    have bound := length_le_escaped t
    rw [behind, List.length_append]
    omega
  have body := stringBody_escaped enough behind
  have closes : ((c.advance ['"'.toNat].length).advance (t.flatMap escaped).length).buffer =
      ['"'.toNat] ++ r := Spans.buffer_advance behind
  have reached := ((Spans.of_buffer opens).trans (Spans.of_buffer behind)).trans
    (Spans.of_buffer closes)
  rw [string, quotedBy, acceptChar?_iff.mpr (Spans.of_buffer opens)]
  simp only [body, acceptChar?_iff.mpr (Spans.of_buffer closes), reached.2]
  rfl

/-- Quoting a text and reading a string are inverse, whatever follows the quotes. Between the quotes
stands no control character and nothing from U+0080 to U+FFFF. -/
theorem quoting_inverts_reading (source x r : Text) (position : Nat) :
    (⟨source, quoted x ++ r, position⟩ : Cursor).string =
        .ok (some x, ⟨source, r, position + (quoted x).length⟩) ∧
      ∀ b ∈ quoted x, 0x20 ≤ b ∧ ¬(0x80 ≤ b ∧ b ≤ 0xffff) := by
  constructor
  · have read := string_quoted (show
      (⟨source, quoted x ++ r, position⟩ : Cursor).buffer = quoted x ++ r from rfl)
    rw [read]
    simp [advance]
  · intro b member
    exact isClean_of_quoted member

end Cursor

end PatternDispatch
