import PatternDispatch.Proofs.GrammarConformance
import PatternDispatch.Proofs.NumberSpelling

/-!
The trees that texts derive. Reading fixes more than the shape of a tree: names are of their kind
and hide no keyword, numbers are those that a literal can denote, a name is bound to a structure
only, and a list has one rest at most.
-/

namespace PatternDispatch

open Character

namespace Cursor

variable {c d : Cursor}

theorem wholeDigits_isDigit (c : Cursor) : ∀ b ∈ c.wholeDigits.1, isDigit b = true := by
  unfold wholeDigits
  split
  · simp
  · next lexeme next lexed =>
    have matched := (lex?_eq_some_iff.mp lexed).1
    simp only [Token.match?] at matched
    split at matched
    · cases matched
    · next b bs =>
      split at matched
      · next zero =>
        cases matched
        simp [Token.whole, zero, isDigit]
      · split at matched
        · next digit =>
          cases matched
          intro x member
          rcases List.mem_cons.mp member with rfl | later
          · exact digit
          · exact List.mem_takeWhile_imp later
        · cases matched

theorem numeral_isDigit {n : Numeral} (read : c.numeral = .ok (some n, d)) :
    ∀ b ∈ n.whole, isDigit b = true := by
  have course := numeral_course c
  rw [read] at course
  cases course
  exact wholeDigits_isDigit _

end Cursor

theorem Decimal.round_ne_nan {f : Format} (negative : Bool) (d : Decimal) :
    d.round f negative ≠ .nan := by
  unfold Decimal.round
  split
  · exact Binary.round_ne_nan _ _
  · split
    · simp
    · split <;> exact Binary.round_ne_nan _ _

/-- A numeral that is read denotes what a literal can denote. -/
theorem Numeral.read_isLiteral {n : Numeral} {value : Number}
    (digits : ∀ b ∈ n.whole, isDigit b = true) (read : n.read = .ok value) : value.IsLiteral := by
  unfold Numeral.read at read
  split at read
  · split at read
    · cases read
    · next short =>
      cases read
      have below : Text.readDecimal n.whole < 10 ^ digitLimit :=
        (Text.readDecimal_lt digits).trans_le (Nat.pow_le_pow_right (by omega) (by omega))
      have same : (if n.negative = true then -(Text.readDecimal n.whole : Int)
          else (Text.readDecimal n.whole : Int)).natAbs = Text.readDecimal n.whole := by
        split <;> omega
      rw [Number.IsLiteral, same]
      exact Text.decimalDigits_length_le (by decide) below
  · cases read
    exact Decimal.round_ne_nan _ _

theorem Cursor.number_isLiteral {c d : Cursor} {value : Number}
    (read : c.number = .ok (some value, d)) : value.IsLiteral := by
  unfold Cursor.number at read
  split at read
  · cases read
  · cases read
  · next numeral next found =>
    split at read
    · cases read
    · next denotes =>
      cases read
      exact Numeral.read_isLiteral (Cursor.numeral_isDigit found) denotes

namespace Pattern

/-- Whether a name can be bound to a pattern. -/
def isStructure : Pattern → Bool
  | array _ | object _ | tag _ | tagArray _ _ | tagObject _ _ => true
  | _ => false

/-- A name for a capture in any place where a name can end. -/
def IsCaptureName (name : Text) : Prop :=
  Token.IsName isLower name ∧ ∀ w ∈ Token.keywords, Token.word w name = false

/-- Where a tree stands. -/
inductive Role where
  | pattern
  | item (place : Grammar.Place)

/-- A tree that some text derives. -/
inductive Readable : Role → Pattern → Prop where
  | wildcard : Readable .pattern .wildcard
  | null : Readable .pattern .null
  | undefined : Readable .pattern .undefined
  | boolean (value : Bool) : Readable .pattern (.boolean value)
  | number {value : Number} : value.IsLiteral → Readable .pattern (.number value)
  | string (value : Text) : Readable .pattern (.string value)
  | identifier {name : Text} : IsCaptureName name → Readable .pattern (.identifier name)
  | binder {name : Text} {inner : Pattern} : IsCaptureName name → inner.isStructure = true →
      Readable .pattern inner → Readable .pattern (.binder name inner)
  | array {items : List Pattern} : (∀ item ∈ items, Readable (.item .sequence) item) →
      items.countP Pattern.isRest ≤ 1 → Readable .pattern (.array items)
  | object {items : List Pattern} : (∀ item ∈ items, Readable (.item .fields) item) →
      items.countP Pattern.isRest ≤ 1 → Readable .pattern (.object items)
  | tag {name : Text} : Token.IsName isUpper name → Readable .pattern (.tag name)
  | tagArray {name : Text} {items : List Pattern} : Token.IsName isUpper name →
      (∀ item ∈ items, Readable (.item .sequence) item) → items.countP Pattern.isRest ≤ 1 →
      Readable .pattern (.tagArray name items)
  | tagObject {name : Text} {items : List Pattern} : Token.IsName isUpper name →
      (∀ item ∈ items, Readable (.item .fields) item) → items.countP Pattern.isRest ≤ 1 →
      Readable .pattern (.tagObject name items)
  | extractor {name : Text} : Token.IsName isNameStart name → Readable .pattern (.extractor name)
  | extractorOf {name : Text} {inner : Pattern} : Token.IsName isNameStart name →
      Readable .pattern inner → Readable .pattern (.extractorOf name inner)
  | element {p : Pattern} : Readable .pattern p → Readable (.item .sequence) p
  /-- The rest of an object holds a name or nothing. -/
  | rest {place : Grammar.Place} {inner : Pattern} : Readable .pattern inner →
      (place = .fields → inner = .wildcard ∨ ∃ name, inner = .identifier name) →
      Readable (.item place) (.rest inner)
  | key (name : Text) : Readable (.item .fields) (.key name)
  | keyValue (name : Text) {inner : Pattern} : Readable .pattern inner →
      Readable (.item .fields) (.keyValue name inner)

/-- The items of a tree that a whole text derives. -/
structure ReadableItems (place : Grammar.Place) (items : List Pattern) : Prop where
  each : ∀ item ∈ items, Readable (.item place) item
  oneRest : items.countP Pattern.isRest ≤ 1

end Pattern

namespace Grammar

open Pattern

theorem Form.isStructure_tree (form : Form) : form.tree.isStructure = form.isStructure := by
  cases form <;> rfl

theorem Form.trees_eq_map (forms : List Form) : Form.trees forms = forms.map Form.tree := by
  induction forms with
  | nil => rfl
  | cons form forms ih => rw [Form.trees, ih, List.map_cons]

theorem Form.countP_trees (forms : List Form) :
    (Form.trees forms).countP Pattern.isRest = forms.countP Form.isRest := by
  rw [Form.trees_eq_map, List.countP_map]
  congr 1
  funext form
  exact Form.isRest_tree form

/-- Where no word goes on, a capture name is one by itself. -/
theorem CaptureName.isCaptureName {c d : Cursor} {name : Text} (captured : CaptureName name c d)
    (stop : Token.startsWith isWord d.buffer = false) : IsCaptureName name := by
  obtain ⟨⟨span, isName, -⟩, free⟩ := captured
  refine ⟨isName, fun w member => ?_⟩
  cases whole : Token.word w name with
  | false => rfl
  | true =>
    exfalso
    obtain ⟨r, rfl, ends⟩ := Token.word_iff.mp whole
    have there : Token.word w c.buffer = true := by
      refine Token.word_iff.mpr ⟨r ++ d.buffer, by rw [span.buffer, List.append_assoc], ?_⟩
      cases r with
      | nil => exact stop
      | cons b bs => exact ends
    obtain ⟨e, word⟩ := exists_word_iff.mpr there
    exact free w member e word

theorem isWord_of_follower {b : CodePoint} (follower : isFollower b = true) : isWord b = false := by
  simp only [isFollower, isCloser, Bool.or_eq_true, beq_iff_eq] at follower
  rcases follower with rfl | (rfl | rfl) | rfl <;> rfl

theorem isWord_of_blank {b : CodePoint} (blank : isBlank b = true) : isWord b = false := by
  have controls : ∀ k < 33, isBlank k = true → isWord k = false := by decide +kernel
  have spaces : ∀ k < 11, isWord (0x2000 + k) = false := by decide +kernel
  have others : ∀ k ∈ [0x85, 0xa0, 0x1680, 0x2028, 0x2029, 0x202f, 0x205f, 0x3000],
      isWord k = false := by decide +kernel
  by_cases low : b < 33
  · exact controls b low blank
  simp only [isBlank, Bool.or_eq_true, Bool.and_eq_true, decide_eq_true_eq, beq_iff_eq] at blank
  by_cases range : 0x2000 ≤ b ∧ b ≤ 0x200a
  · obtain ⟨k, rfl⟩ := Nat.exists_eq_add_of_le range.1
    apply spaces k
    unfold CodePoint at *
    omega
  · apply others b
    simp only [List.mem_cons, List.not_mem_nil, or_false]
    unfold CodePoint at *
    omega

theorem Followed.no_word {d : Cursor} (followed : Followed d) :
    Token.startsWith isWord d.buffer = false :=
  startsWith_false fun _ head =>
    (followed.head head).elim isWord_of_blank isWord_of_follower

/-- What a derivation makes of the place where it stands. -/
def Derived : Part → Cursor → Cursor → Prop
  | .pattern form, _, d => Followed d → Readable .pattern form.tree
  | .item place form, _, d => Followed d → Readable (.item place) form.tree
  | .items place forms _, _, d => Ended d → ∀ form ∈ forms, Readable (.item place) form.tree
  | .enclosed _ closing place forms _, _, _ => isCloser closing.toNat = true →
      ReadableItems place (Form.trees forms)

theorem readableItems_of_forms {place : Place} {forms : List Form}
    (each : ∀ form ∈ forms, Readable (.item place) form.tree) (rests : AtMostOneRest forms) :
    ReadableItems place (Form.trees forms) where
  each := by
    rw [Form.trees_eq_map]
    intro item member
    obtain ⟨form, inside, rfl⟩ := List.mem_map.mp member
    exact each form inside
  oneRest := by
    rw [Form.countP_trees]
    exact rests

theorem holdsName_tree {inner : Form} (holds : (Form.rest inner).holdsName = true) :
    inner.tree = .wildcard ∨ ∃ name, inner.tree = .identifier name := by
  cases inner with
  | wildcard => exact .inl rfl
  | identifier name => exact .inr ⟨name, rfl⟩
  | _ => cases holds

/-- Every derivation makes readable trees. -/
theorem Spells.derived {part : Part} {c d : Cursor} (spells : Spells part c d) :
    Derived part c d := by
  induction spells with
  | wildcard => exact fun _ => .wildcard
  | null => exact fun _ => .null
  | undefined => exact fun _ => .undefined
  | boolean value => exact fun _ => .boolean value
  | number read => exact fun _ => .number (Cursor.number_isLiteral read)
  | string => exact fun _ => .string _
  | identifier captured =>
    exact fun followed => .identifier (captured.isCaptureName followed.no_word)
  | binder captured bound structured _ ih =>
    intro followed
    refine .binder (captured.isCaptureName ?_) ?_ (ih followed)
    · rw [startsWith_of_head bound.head]
      rfl
    · rw [Form.isStructure_tree, structured]
  | array _ ih => exact fun _ => .array (ih rfl).each (ih rfl).oneRest
  | object _ ih => exact fun _ => .object (ih rfl).each (ih rfl).oneRest
  | tag named => exact fun _ => .tag named.2.1
  | tagArray named _ ih => exact fun _ => .tagArray named.2.1 (ih rfl).each (ih rfl).oneRest
  | tagObject named _ ih => exact fun _ => .tagObject named.2.1 (ih rfl).each (ih rfl).oneRest
  | extractor _ named => exact fun _ => .extractor named.2.1
  | extractorEmpty _ named => exact fun _ => .extractor named.2.1
  | extractorOf _ named _ _ _ after closes ih =>
    exact fun _ => .extractorOf named.2.1 (ih (followed_of_span after closes rfl))
  | element _ ih => exact fun followed => .element (ih followed)
  | dots => exact fun _ => .rest .wildcard fun _ => .inl rfl
  | rest _ _ fits ih =>
    exact fun followed => .rest (ih followed) fun isFields => holdsName_tree (fits isFields)
  | namedRest captured dots =>
    intro _
    refine .rest (.identifier (captured.isCaptureName ?_)) fun _ => .inr ⟨_, rfl⟩
    rw [startsWith_of_head dots.head]
    rfl
  | key => exact fun _ => .key _
  | keyValue _ _ _ _ _ ih => exact fun followed => .keyValue _ (ih followed)
  | none => exact fun _ _ member => nomatch member
  | one _ ih =>
    intro ended form member
    rw [List.mem_singleton.mp member]
    exact ih ended.followed
  | trailing _ blanks comma ih =>
    intro _ form member
    rw [List.mem_singleton.mp member]
    exact ih (followed_of_span blanks comma rfl)
  | more _ before comma _ _ ih ihLater =>
    intro ended form member
    rcases List.mem_cons.mp member with rfl | later
    · exact ih (followed_of_span before comma rfl)
    · exact ihLater ended form later
  | enclosed _ _ _ after closes rests ih =>
    intro closer
    refine readableItems_of_forms (ih fun x head => ?_) rests
    have visible := isFollower_not_blank (by rw [isFollower, closer, Bool.or_true])
    rw [after.skipBlanks_span closes visible, closes.head] at head
    cases head
    exact closer

/-- What is read from a text is an argument list of readable items. -/
theorem readable_of_parse {text : Text} {tree : Pattern}
    (read : Pattern.Parser.parse text = .ok tree) :
    ∃ items, tree = .argumentList items ∧ ReadableItems .sequence items := by
  obtain ⟨forms, trailing, ⟨a, b, d, -, spells, after, done, rests⟩, rfl⟩ := derives_of_parse read
  exact ⟨_, rfl, readableItems_of_forms (spells.derived (ended_of_done after done)) rests⟩

end Grammar

end PatternDispatch
