import PatternDispatch.Proofs.CanonicalRoundTrip

/-!
Text that stands inside other text. The readers of tokens stop in front of a closing bracket as they
do at the end of a text, so what derives a part of the grammar derives it as well with other text in
front of it and a closing bracket behind it. The items of a text can therefore be put between
brackets.
-/

namespace PatternDispatch

open Character Grammar

/-- The place of a text inside another one: how much stands in front of it, and what stands behind
it, in front of which a list can end. -/
structure Surroundings where
  source : Text
  offset : Nat
  behind : Text
  closes : Closes behind

/-- A cursor on a text as a cursor on the text around it. -/
def Cursor.within (s : Surroundings) (c : Cursor) : Cursor :=
  ⟨s.source, c.buffer ++ s.behind, c.position + s.offset⟩

theorem isDigit_of_follower {b : CodePoint} (follower : isFollower b = true) :
    isDigit b = false := by
  simp only [isFollower, isCloser, Bool.or_eq_true, beq_iff_eq] at follower
  rcases follower with rfl | (rfl | rfl) | rfl <;> rfl

theorem isSign_of_follower {b : CodePoint} (follower : isFollower b = true) :
    Numeral.isSign b = false := by
  simp only [isFollower, isCloser, Bool.or_eq_true, beq_iff_eq] at follower
  rcases follower with rfl | (rfl | rfl) | rfl <;> rfl

namespace Surroundings

variable (s : Surroundings) {isMember : CodePoint → Bool}

/-- What no follower is does not begin behind the text either. -/
theorem startsWith_append (others : ∀ b, isFollower b = true → isMember b = false) (t : Text) :
    Token.startsWith isMember (t ++ s.behind) = Token.startsWith isMember t := by
  cases t with
  | nil => exact s.closes.stops.no_start others
  | cons b bs => rfl

theorem takeWhile_append (others : ∀ b, isFollower b = true → isMember b = false) (t : Text) :
    (t ++ s.behind).takeWhile isMember = t.takeWhile isMember := by
  obtain ⟨r, whole, members, stop⟩ := Token.exists_takeWhile isMember t
  have behind : Token.startsWith isMember (r ++ s.behind) = false := by
    rw [s.startsWith_append others, stop]
  have spelled := congrArg (· ++ s.behind) whole
  rw [spelled, List.append_assoc, Token.takeWhile_append members behind]

/-- A word that ends the text is a word in front of what follows it. -/
theorem word_of_append {w t : Text} (letters : ∀ b ∈ w, isCloser b = false)
    (found : Token.word w (t ++ s.behind) = true) : Token.word w t = true := by
  obtain ⟨r, whole, stop⟩ := Token.word_iff.mp found
  rcases List.append_eq_append_iff.mp whole with ⟨u, longer, behind⟩ | ⟨u, rfl, rfl⟩
  · -- The word would reach beyond the text.
    cases u with
    | nil => exact Token.word_iff.mpr ⟨[], by rw [longer, List.append_nil, List.append_nil], rfl⟩
    | cons b bs =>
      have closer := s.closes b (by rw [behind]; rfl)
      rw [letters b (by rw [longer]; simp)] at closer
      cases closer
  · refine Token.word_iff.mpr ⟨u, rfl, ?_⟩
    rwa [s.startsWith_append fun _ => isWord_of_follower] at stop

theorem integer_append (t : Text) :
    Token.integer.match? (t ++ s.behind) = Token.integer.match? t := by
  cases t with
  | nil =>
    cases same : s.behind with
    | nil => rfl
    | cons b bs =>
      have noDigit : isDigit b = false :=
        isDigit_of_follower (s.closes.stops b (by rw [same]; rfl))
      have notZero : b ≠ '0'.toNat := by rintro rfl; cases noDigit
      simp only [List.nil_append, Token.match?, if_neg notZero, noDigit, Bool.false_eq_true,
        if_false]
  | cons b bs =>
    simp only [List.cons_append, Token.match?, s.takeWhile_append fun _ => isDigit_of_follower]

theorem digits_append (t : Text) :
    Token.digits.match? (t ++ s.behind) = Token.digits.match? t := by
  simp only [Token.match?, Token.run, s.takeWhile_append fun _ => isDigit_of_follower]

theorem exponentMark_append (t : Text) :
    Token.exponentMark.match? (t ++ s.behind) = Token.exponentMark.match? t := by
  match t with
  | [] =>
    cases same : s.behind with
    | nil => rfl
    | cons b bs =>
      have stops := goesOn_of_follower (s.closes.stops b (by rw [same]; rfl))
      have noLetter : ¬(b = 'e'.toNat ∨ b = 'E'.toNat) := by
        rintro (rfl | rfl) <;> cases stops
      simp only [List.nil_append, Token.match?, if_neg noLetter]
  | [b] =>
    cases same : s.behind with
    | nil => rfl
    | cons x xs =>
      -- What follows the letter is no sign.
      have noSign : ¬(x = '+'.toNat ∨ x = '-'.toNat) := by
        have stops := isSign_of_follower (s.closes.stops x (by rw [same]; rfl))
        rintro (rfl | rfl) <;> cases stops
      simp only [List.cons_append, List.nil_append, Token.match?, if_neg noSign]
  | b :: sign :: t => rfl

end Surroundings

namespace Token

/-- A run that stops inside a text stops there whatever follows the text. -/
theorem run_append_of_mem {isMember : CodePoint → Bool} {t : Text} {b : CodePoint} (member : b ∈ t)
    (outside : isMember b = false) (r : Text) : run isMember (t ++ r) = run isMember t := by
  obtain ⟨u, whole, members, stop⟩ := exists_takeWhile isMember t
  have later : startsWith isMember (u ++ r) = false := by
    cases u with
    | nil =>
      rw [List.append_nil] at whole
      rw [whole] at member
      rw [members b member] at outside
      cases outside
    | cons x xs => exact stop
  have spelled := congrArg (· ++ r) whole
  rw [run, run, spelled, List.append_assoc, takeWhile_append members later]

/-- Hexadecimal digits end in front of what is none. -/
theorem hexRun_append {letter : Char} {count : Nat} {t : Text} {b : CodePoint}
    (member : b ∈ t.drop 2) (outside : isHexDigit b = false) (r : Text) :
    hexRun letter count (t ++ r) = hexRun letter count t := by
  match t with
  | [] | [_] => cases member
  | first :: second :: cs =>
    have inside : b ∈ cs := member
    by_cases enough : count ≤ cs.length
    · simp only [List.cons_append, hexRun, List.take_append_of_le_length enough]
    · -- All that is left is too short, and what stands behind it is not reached.
      have short : cs.take count = cs := List.take_of_length_le (by omega)
      have reached : b ∈ (cs ++ r).take count := by
        rw [List.take_append, short]
        exact List.mem_append_left _ inside
      have broken : ((cs ++ r).take count).all isHexDigit = false :=
        List.all_eq_false.mpr ⟨b, reached, by rw [outside]; exact Bool.false_ne_true⟩
      have tooShort : (cs.take count).length ≠ count := by rw [short]; omega
      simp only [List.cons_append, hexRun, broken, tooShort, Bool.false_eq_true, false_and,
        and_false, if_false]

/-- An escape that a later character of the text ends is the same whatever follows the text. -/
theorem escape_append {token : Token} (isEscape : token ∈ escapes) {t : Text} {b : CodePoint}
    (member : b ∈ t.drop 2) (outside : isHexDigit b = false) (r : Text) :
    token.match? (t ++ r) = token.match? t := by
  rw [mem_escapes] at isEscape
  match t with
  | [] | [_] => cases member
  | first :: second :: [] => cases member
  | first :: second :: third :: cs =>
    rcases isEscape with rfl | rfl | rfl | rfl | rfl
    · rfl
    · exact hexRun_append member outside r
    · exact hexRun_append member outside r
    · rfl
    · rfl

end Token

namespace Cursor

variable {c d : Cursor} {w : Text} {s : Surroundings}

theorem within_buffer (s : Surroundings) (c : Cursor) :
    (c.within s).buffer = c.buffer ++ s.behind := rfl

theorem advance_within {count : Nat} (enough : count ≤ c.buffer.length) :
    (c.within s).advance count = (c.advance count).within s := by
  simp only [advance, within, List.drop_append_of_le_length enough, List.length_append,
    Cursor.mk.injEq, true_and]
  omega

theorem Spans.within (span : c.Spans w d) (s : Surroundings) :
    (c.within s).Spans w (d.within s) := by
  obtain ⟨begins, rfl⟩ := span
  exact ⟨begins.trans (List.prefix_append _ _), (advance_within begins.length_le).symm⟩

theorem lex?_within {token : Token}
    (same : token.match? (c.buffer ++ s.behind) = token.match? c.buffer) :
    (c.within s).lex? token = (c.lex? token).map fun found => (found.1, found.2.within s) := by
  cases lexed : c.lex? token with
  | none => exact lex?_eq_none_iff.mpr (same.trans (lex?_eq_none_iff.mp lexed))
  | some found =>
    obtain ⟨lexeme, d⟩ := found
    obtain ⟨matched, rfl⟩ := lex?_eq_some_iff.mp lexed
    have begins := (Token.match?_spec matched).2
    exact lex?_eq_some_iff.mpr ⟨same.trans matched, (advance_within begins.length_le).symm⟩

theorem acceptChar?_within {char : Char} (other : isFollower char.toNat = false) :
    (c.within s).acceptChar? char = (c.acceptChar? char).map (within s) := by
  cases accepted : c.acceptChar? char with
  | some d => exact acceptChar?_iff.mpr ((acceptChar?_iff.mp accepted).within s)
  | none =>
    refine acceptChar?_eq_none ?_
    rw [within_buffer, s.startsWith_append, acceptChar?_none accepted]
    intro b follower
    rw [beq_eq_false_iff_ne]
    rintro rfl
    rw [other] at follower
    cases follower

/-! ## Numbers -/

theorem sign_within : (c.within s).sign = (c.sign.1, c.sign.2.within s) := by
  rw [sign, sign, acceptChar?_within rfl]
  cases c.acceptChar? '-' <;> rfl

theorem wholeDigits_within :
    (c.within s).wholeDigits = (c.wholeDigits.1, c.wholeDigits.2.within s) := by
  rw [wholeDigits, wholeDigits, lex?_within (s.integer_append _)]
  cases c.lex? .integer <;> rfl

theorem fraction_within {found : Option Text} (read : c.fraction = .ok (found, d)) :
    (c.within s).fraction = .ok (found, d.within s) := by
  unfold fraction at read ⊢
  rw [acceptChar?_within rfl]
  split at read
  · next absent =>
    cases read
    rw [absent]
    rfl
  · next next accepted =>
    rw [accepted]
    dsimp only [Option.map_some]
    rw [lex?_within (s.digits_append _)]
    split at read
    · cases read
    · next digits last lexed =>
      cases read
      rw [lexed]
      rfl

theorem exponent_within {found : Option (Bool × Text)} (read : c.exponent = .ok (found, d)) :
    (c.within s).exponent = .ok (found, d.within s) := by
  unfold exponent at read ⊢
  rw [lex?_within (s.exponentMark_append _)]
  split at read
  · next absent =>
    cases read
    rw [absent]
    rfl
  · next mark next marked =>
    rw [marked]
    dsimp only [Option.map_some]
    rw [lex?_within (s.digits_append _)]
    split at read
    · cases read
    · next digits last lexed =>
      cases read
      rw [lexed]
      rfl

theorem numeral_within {n : Numeral} (read : c.numeral = .ok (some n, d)) :
    (c.within s).numeral = .ok (some n, d.within s) := by
  have course := numeral_course c
  rw [read] at course
  cases course with
  | found present readFraction readExponent =>
    rw [numeral, sign_within]
    dsimp only
    rw [wholeDigits_within, numeralBehind, fraction_within readFraction]
    dsimp only
    rw [if_neg present, exponent_within readExponent]

theorem number_within {value : Number} (read : c.number = .ok (some value, d)) :
    (c.within s).number = .ok (some value, d.within s) := by
  unfold number at read ⊢
  split at read
  · cases read
  · cases read
  · next n next found =>
    rw [numeral_within found]
    dsimp only
    split at read
    · cases read
    · cases read
      rfl

/-! ## Strings -/

theorem lexEscape?_within {tokens : List Token}
    (same : ∀ token ∈ tokens, token.match? (c.buffer ++ s.behind) = token.match? c.buffer) :
    (c.within s).lexEscape? tokens =
      (c.lexEscape? tokens).map fun found => (found.1, found.2.within s) := by
  induction tokens with
  | nil => rfl
  | cons token tokens ih =>
    have later := ih fun other member => same other (List.mem_cons_of_mem _ member)
    rw [lexEscape?, lexEscape?, lex?_within (same token List.mem_cons_self)]
    cases c.lex? token with
    | none => exact later
    | some found => rfl

/-- An escape leaves no more than all but two characters of its text. -/
theorem escape?_leaves {meaning : Text} (found : c.escape? = some (meaning, d)) {b : CodePoint}
    (member : b ∈ d.buffer) : b ∈ c.buffer.drop 2 := by
  obtain ⟨token, isEscape, lexeme, lexed⟩ := lexEscape?_some found
  obtain ⟨matched, rfl⟩ := lex?_eq_some_iff.mp lexed
  have long := (Token.escape_begins isEscape matched).2
  have left : c.buffer.drop lexeme.text.length =
      (c.buffer.drop 2).drop (lexeme.text.length - 2) := by
    rw [List.drop_drop, Nat.add_sub_cancel' long]
  rw [advance, left] at member
  exact List.mem_of_mem_drop member

/-- An escape that a later character of the text ends is the same inside other text. -/
theorem escape?_within {b : CodePoint} (member : b ∈ c.buffer.drop 2)
    (outside : isHexDigit b = false) :
    (c.within s).escape? = c.escape?.map fun found => (found.1, found.2.within s) :=
  lexEscape?_within fun _ isEscape => Token.escape_append isEscape member outside _

/-- What a string body takes as it is: a run of characters, none of them the closing quote. -/
structure TakesPlain (plain : Token) (isPlain : CodePoint → Bool) (quote : CodePoint) : Prop where
  run : ∀ t, plain.match? t = (Token.run isPlain t).map Token.whole
  stops : isPlain quote = false
  noHexDigit : isHexDigit quote = false
  noBackslash : quote ≠ '\\'.toNat

section Bodies

variable {plain : Token} {isPlain : CodePoint → Bool} {quote : CodePoint}

theorem TakesPlain.lex?_none (takes : TakesPlain plain isPlain quote)
    (closed : c.buffer.head? = some quote) : c.lex? plain = none := by
  rw [lex?_eq_none_iff, takes.run, Token.run_eq_none_iff.mpr]
  · rfl
  · rw [startsWith_of_head closed, takes.stops]

/-- A body ends at its quote. -/
theorem TakesPlain.stringBody_closed (takes : TakesPlain plain isPlain quote)
    (closed : c.buffer.head? = some quote) (limit : Nat) : stringBody plain limit c = ([], c) := by
  have noEscape : c.escape? = none := by
    refine escape?_none fun begins => takes.noBackslash ?_
    exact Option.some.inj (closed.symm.trans begins)
  cases limit with
  | zero => rfl
  | succ limit => rw [stringBody, takes.lex?_none closed, noEscape]

theorem Reaches.mem {b : CodePoint} (reaches : c.Reaches d) (member : b ∈ d.buffer) :
    b ∈ c.buffer := by
  obtain ⟨w, span⟩ := reaches
  rw [span.buffer]
  exact List.mem_append_right _ member

/-- A body that ends at its quote is the same inside other text. The limit on the pieces can only
grow there. -/
theorem TakesPlain.stringBody_within (takes : TakesPlain plain isPlain quote) {limit more : Nat}
    (enough : limit ≤ more) {body : Text} (read : stringBody plain limit c = (body, d))
    (closed : d.buffer.head? = some quote) :
    stringBody plain more (c.within s) = (body, d.within s) := by
  have closedWithin {e : Cursor} (closed : e.buffer.head? = some quote) :
      (e.within s).buffer.head? = some quote := by
    rw [within_buffer, List.head?_append, closed]
    rfl
  induction limit generalizing c body more with
  | zero =>
    cases read
    exact takes.stringBody_closed (closedWithin closed) more
  | succ limit ih =>
    obtain ⟨more, rfl⟩ := Nat.exists_eq_succ_of_ne_zero (by omega : more ≠ 0)
    have later : limit ≤ more := by omega
    have reaches := stringBody_reaches plain (limit + 1) c
    rw [read] at reaches
    have ahead : quote ∈ c.buffer := reaches.mem (List.mem_of_mem_head? closed)
    have lexedWithin : (c.within s).lex? plain =
        (c.lex? plain).map fun found => (found.1, found.2.within s) :=
      lex?_within (by rw [takes.run, takes.run, Token.run_append_of_mem ahead takes.stops])
    unfold stringBody at read ⊢
    rw [lexedWithin]
    split at read
    · next lexeme next lexed =>
      cases read
      rw [lexed]
      dsimp only [Option.map_some]
      rw [ih later rfl]
    · next absent =>
      rw [absent]
      dsimp only [Option.map_none]
      split at read
      · next meaning next escaped =>
        cases read
        have behind : quote ∈ next.buffer :=
          (stringBody_reaches plain limit next).mem (List.mem_of_mem_head? closed)
        rw [escape?_within (escape?_leaves escaped behind) takes.noHexDigit, escaped]
        dsimp only [Option.map_some]
        rw [ih later rfl]
      · cases read
        -- Neither a run nor an escape: the body ended at the quote.
        have whole := takes.stringBody_closed (closedWithin closed) (more + 1)
        unfold stringBody at whole
        rw [lexedWithin, absent] at whole
        exact whole

theorem TakesPlain.quotedBy_within {char : Char}
    (takes : TakesPlain plain isPlain char.toNat) (other : isFollower char.toNat = false)
    {body : Text} (read : c.quotedBy char plain = .ok (some body, d)) :
    (c.within s).quotedBy char plain = .ok (some body, d.within s) := by
  unfold quotedBy at read ⊢
  rw [acceptChar?_within other]
  split at read
  · cases read
  · next opened opens =>
    rw [opens]
    dsimp only [Option.map_some] at read ⊢
    split at read
    · cases read
    · next closed closes =>
      cases read
      have fits : opened.buffer.length ≤ (opened.within s).buffer.length := by
        rw [within_buffer, List.length_append]
        omega
      have inside := takes.stringBody_within (s := s) fits rfl (acceptChar?_iff.mp closes).head
      rw [inside]
      dsimp only
      rw [acceptChar?_within other, closes]
      rfl

end Bodies

theorem takesPlain_double : TakesPlain .doubleQuoted
    (fun b => !(b == '"'.toNat || b == '\\'.toNat || Token.isNewline b)) '"'.toNat :=
  ⟨fun _ => rfl, rfl, rfl, by decide⟩

theorem takesPlain_single : TakesPlain .singleQuoted
    (fun b => !(b == '\''.toNat || b == '\\'.toNat || Token.isNewline b)) '\''.toNat :=
  ⟨fun _ => rfl, rfl, rfl, by decide⟩

theorem string_within {value : Text} (read : c.string = .ok (some value, d)) :
    (c.within s).string = .ok (some value, d.within s) := by
  unfold string at read ⊢
  split at read
  · next next absent =>
    obtain ⟨rfl, noQuote⟩ := quotedBy_none absent
    have absentWithin : (next.within s).quotedBy '"' .doubleQuoted = .ok (none, next.within s) := by
      rw [quotedBy, acceptChar?_within rfl, noQuote]
      rfl
    rw [absentWithin]
    exact takesPlain_single.quotedBy_within rfl read
  · rw [takesPlain_double.quotedBy_within rfl read]

end Cursor

namespace Grammar

open Pattern.Parser

variable {c d : Cursor} {s : Surroundings} {name : Text} {isFirst : CodePoint → Bool}

/-! ## Parts of the grammar -/

theorem Blanks.within (blanks : Blanks c d) (s : Surroundings) :
    Blanks (c.within s) (d.within s) := by
  obtain ⟨w, isBlank, span⟩ := blanks
  exact ⟨w, isBlank, span.within s⟩

/-- No blanks stand in front of what is no blank. -/
theorem Blanks.of_not_blank (blanks : Blanks c d)
    (visible : Token.startsWith isBlank c.buffer = false) : d = c := by
  obtain ⟨w, isBlank, span⟩ := blanks
  cases w with
  | nil => exact span.unique (Cursor.Spans.refl c)
  | cons b bs =>
    rw [startsWith_of_head span.head, isBlank b List.mem_cons_self] at visible
    cases visible

theorem Word.within {w : Text} (word : Word w c d) (s : Surroundings) :
    Word w (c.within s) (d.within s) :=
  ⟨word.1.within s, by
    rw [Cursor.within_buffer, s.startsWith_append fun _ => isWord_of_follower, word.2]⟩

theorem Name.within (named : Name isFirst name c d) (s : Surroundings) :
    Name isFirst name (c.within s) (d.within s) :=
  ⟨named.1.within s, named.2.1, by
    rw [Cursor.within_buffer, s.startsWith_append fun _ => isNamePart_of_follower, named.2.2]⟩

theorem CaptureName.within (captured : CaptureName name c d) (s : Surroundings) :
    CaptureName name (c.within s) (d.within s) := by
  refine ⟨captured.1.within s, fun w member e word => ?_⟩
  have letters : ∀ w ∈ Token.keywords, ∀ b ∈ w, isCloser b = false := by decide
  have inside := s.word_of_append (letters w member) (exists_word_iff.mp ⟨e, word⟩)
  obtain ⟨f, found⟩ := exists_word_iff.mpr inside
  exact captured.2 w member f found

theorem Key.within (named : Key name c d) (s : Surroundings) :
    Key name (c.within s) (d.within s) :=
  named.imp Cursor.string_within fun bare => bare.within s

/-- What derives a part of the grammar derives it inside other text, where a list can end behind
it. -/
theorem Spells.within {part : Part} (derived : Spells part c d) (s : Surroundings) :
    Spells part (c.within s) (d.within s) := by
  induction derived with
  | wildcard span => exact .wildcard (span.within s)
  | null word => exact .null (word.within s)
  | undefined word => exact .undefined (word.within s)
  | boolean value word => exact .boolean value (word.within s)
  | number read span => exact .number (Cursor.number_within read) (span.within s)
  | string read => exact .string (Cursor.string_within read)
  | identifier captured => exact .identifier (captured.within s)
  | binder captured at' structured _ ih =>
    exact .binder (captured.within s) (at'.within s) structured ih
  | array _ ih => exact .array ih
  | object _ ih => exact .object ih
  | tag named => exact .tag (named.within s)
  | tagArray named _ ih => exact .tagArray (named.within s) ih
  | tagObject named _ ih => exact .tagObject (named.within s) ih
  | extractor dollar named => exact .extractor (dollar.within s) (named.within s)
  | extractorEmpty dollar named opens blanks closes =>
    exact .extractorEmpty (dollar.within s) (named.within s) (opens.within s) (blanks.within s)
      (closes.within s)
  | extractorOf dollar named opens before _ after closes ih =>
    exact .extractorOf (dollar.within s) (named.within s) (opens.within s) (before.within s) ih
      (after.within s) (closes.within s)
  | element _ ih => exact .element ih
  | dots span => exact .dots (span.within s)
  | rest dots _ holds ih => exact .rest (dots.within s) ih holds
  | namedRest captured dots => exact .namedRest (captured.within s) (dots.within s)
  | key named => exact .key (named.within s)
  | keyValue named before colon after _ ih =>
    exact .keyValue (named.within s) (before.within s) (colon.within s) (after.within s) ih
  | none => exact .none
  | one _ ih => exact .one ih
  | trailing _ blanks comma ih => exact .trailing ih (blanks.within s) (comma.within s)
  | more _ before comma after _ ih ihOthers =>
    exact .more ih (before.within s) (comma.within s) (after.within s) ihOthers
  | enclosed opens before _ after closes rests ih =>
    exact .enclosed (opens.within s) (before.within s) ih (after.within s) (closes.within s) rests

/-! ## Texts of items between brackets -/

section Enclosing

variable {text : Text} {forms : List Form} {trailing : Bool}

/-- The items of a text, between brackets. -/
theorem SpellsText.enclosed (opening closing : Char) (spells : SpellsText forms trailing text)
    (closer : isCloser closing.toNat = true)
    (same : c.buffer = Pattern.bracketed opening closing text) :
    ∃ d, Spells (.enclosed opening closing .sequence forms trailing) c d ∧ d.buffer = [] := by
  obtain ⟨a, b, e, before, derived, after, done, rests⟩ := spells
  let s : Surroundings := ⟨c.source, c.position + 1, [closing.toNat], fun x head => by
    cases head
    exact closer⟩
  have parts : c.buffer = [opening.toNat] ++ (text ++ [closing.toNat]) := same
  have opened : (Cursor.start text).within s = c.advance 1 := by
    simp [Cursor.within, Cursor.start, Cursor.advance, parts, s]
  have opens : c.Spans [opening.toNat] ((Cursor.start text).within s) := by
    rw [opened]
    exact Cursor.Spans.of_buffer parts
  have last : (e.within s).buffer = [closing.toNat] ++ [] := by
    rw [Cursor.within_buffer, done]
    rfl
  exact ⟨_, .enclosed opens (before.within s) (derived.within s) (after.within s)
    (Cursor.Spans.of_buffer last) rests, Cursor.Spans.buffer_advance last⟩

/-- A text of items is an array between brackets. -/
theorem parse_array {items : List Pattern} (read : parse text = .ok (.argumentList items)) :
    parse (Pattern.bracketed '[' ']' text) = .ok (.argumentList [.array items]) := by
  obtain ⟨forms, trailing, spells, tree⟩ := derives_of_parse read
  obtain ⟨d, derived, done⟩ := spells.enclosed (c := Cursor.start _) '[' ']' rfl rfl
  cases tree
  exact parse_of_item (.element (.array derived)) done

/-- A text of items is a class pattern between parentheses behind a class name. -/
theorem parse_tagArray {items : List Pattern} (isName : Token.IsName isUpper name)
    (read : parse text = .ok (.argumentList items)) :
    parse (name ++ Pattern.bracketed '(' ')' text) =
      .ok (.argumentList [.tagArray name items]) := by
  obtain ⟨forms, trailing, spells, tree⟩ := derives_of_parse read
  have same : (Cursor.start (name ++ Pattern.bracketed '(' ')' text)).buffer =
      name ++ Pattern.bracketed '(' ')' text := rfl
  obtain ⟨d, derived, done⟩ := spells.enclosed '(' ')' rfl (Cursor.Spans.buffer_advance same)
  cases tree
  exact parse_of_item (.element (.tagArray (name_of_buffer isName same rfl) derived)) done

/-- A class name in front of an object makes a class pattern of it. -/
theorem Spells.tagged {a : Cursor} {comma : Bool}
    (derived : Spells (.items .sequence [.object forms trailing] comma) c d)
    (named : Name isUpper name a c) :
    Spells (.items .sequence [.tagObject name forms trailing] comma) a d := by
  have tagged {b : Cursor} (derived : Spells (.item .sequence (.object forms trailing)) c b) :
      Spells (.item .sequence (.tagObject name forms trailing)) a b := by
    cases derived with
    | element derived =>
      cases derived with
      | object inside => exact .element (.tagObject named inside)
  cases derived with
  | one derived => exact .one (tagged derived)
  | trailing derived blanks comma => exact .trailing (tagged derived) blanks comma

theorem Form.exists_object {items : List Pattern} (tree : Form.trees forms = [.object items]) :
    ∃ fields trailing, forms = [.object fields trailing] ∧ Form.trees fields = items := by
  match forms with
  | [] => cases tree
  | _ :: _ :: _ => cases congrArg List.length tree
  | [form] =>
    have same : form.tree = .object items := List.head_eq_of_cons_eq tree
    cases form with
    | object fields trailing => cases same; exact ⟨fields, trailing, rfl, rfl⟩
    | _ => cases same

/-- A text of one object is a class pattern behind a class name. -/
theorem parse_tagObject {items : List Pattern} (isName : Token.IsName isUpper name)
    (brace : text.head? = some '\x7b'.toNat)
    (read : parse text = .ok (.argumentList [.object items])) :
    parse (name ++ text) = .ok (.argumentList [.tagObject name items]) := by
  obtain ⟨forms, trailing, ⟨a, b, e, before, derived, after, done, -⟩, tree⟩ :=
    derives_of_parse read
  obtain ⟨fields, comma, rfl, rfl⟩ := Form.exists_object (Pattern.argumentList.inj tree).symm
  have visible : Token.startsWith isBlank text = false :=
    startsWith_of_head (c := .start text) brace
  obtain rfl := before.of_not_blank visible
  let s : Surroundings := ⟨name ++ text, name.length, [], nofun⟩
  have same : (Cursor.start (name ++ text)).buffer = name ++ text := rfl
  have behind : (Cursor.start text).within s =
      (Cursor.start (name ++ text)).advance name.length := by
    simp [Cursor.within, Cursor.start, Cursor.advance, s]
  have stop : Token.startsWith isNamePart text = false :=
    startsWith_of_head (c := .start text) brace
  have inside := derived.within s
  rw [behind] at inside
  have ended : (e.within s).buffer = [] := by rw [Cursor.within_buffer, done]; rfl
  have oneRest : AtMostOneRest [Form.tagObject name fields comma] := List.countP_le_length
  exact parse_of_spellsText ⟨_, _, _, Blanks.refl _,
    inside.tagged (name_of_buffer isName same stop), after.within s, ended, oneRest⟩

end Enclosing

end Grammar

end PatternDispatch
