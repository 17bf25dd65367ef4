import PatternDispatch.Proofs.ReadingFailures

/-!
Where errors are reported. Taking text and putting it back keeps the position in step with what is
left, so that the column and the caret of an error agree. The grammar then says what stands there:
a rest that is one too many is the second of a list that is open at its place, and where a bracket
or a quote is expected there is none.
-/

namespace PatternDispatch

open Character

/-! ## States of a cursor -/

namespace Cursor

/-- The states of a cursor over a text: characters are taken, and what was taken since an earlier
state is put back. -/
inductive Attained (text : Text) : Cursor → Prop where
  | start : Attained text (start text)
  | taken {c : Cursor} (count : Nat) : Attained text c → Attained text (c.advance count)
  | putBack {c d : Cursor} : Attained text c → c.Reaches d → Attained text (d.rewindTo c.buffer)

variable {text : Text} {c d : Cursor}

theorem advance_reaches (c : Cursor) (count : Nat) : c.Reaches (c.advance count) := by
  refine ⟨c.buffer.take count, List.take_prefix _ _, ?_⟩
  rw [List.length_take]
  unfold advance
  rcases Nat.le_total count c.buffer.length with within | beyond
  · rw [Nat.min_eq_left within, Nat.min_eq_left within]
  · rw [Nat.min_eq_right beyond, List.drop_eq_nil_of_le beyond, List.drop_length, Nat.min_self]

/-- All states are places of the text. -/
theorem attained_iff : Attained text c ↔ (start text).Reaches c := by
  constructor
  · intro attained
    induction attained with
    | start => exact Reaches.refl _
    | taken count _ ih => exact ih.trans (advance_reaches _ count)
    | putBack _ reaches ih =>
      rw [rewindTo_eq reaches]
      exact ih
  · rintro ⟨w, -, rfl⟩
    exact .taken w.length .start

theorem Attained.reaches (attained : Attained text c) (reaches : c.Reaches d) : Attained text d :=
  attained_iff.mpr ((attained_iff.mp attained).trans reaches)

/-- In every state the buffer is what the text has from the position on. -/
theorem Attained.position (attained : Attained text c) :
    c.source = text ∧ c.buffer = text.drop c.position ∧
      c.position = text.length - c.buffer.length := by
  obtain ⟨before, rest, rfl, rfl⟩ := reaches_start_iff.mp (attained_iff.mp attained)
  refine ⟨rfl, List.drop_left.symm, ?_⟩
  rw [List.length_append, Nat.add_sub_cancel]

end Cursor

theorem ParseError.Behind.reaches {c : Cursor} {e : ParseError} (behind : e.Behind c) :
    c.Reaches e.cursor := by
  cases e with
  | malformed reason d => exact behind
  | integerTooLong count d =>
    obtain ⟨a, reached, _, _, -, -, -, span, -⟩ := behind
    exact reached.trans ⟨_, span⟩

namespace Pattern.Parser

open Cursor

/-- The readers that reading a text is made of. -/
inductive IsReader : {α : Type} → (Cursor → Except ParseError (α × Cursor)) → Prop where
  | string : IsReader Cursor.string
  | number : IsReader Cursor.number
  | lexeme (token : Token) : IsReader (lexeme token)
  | wildcard : IsReader wildcard
  | firstOf {α : Type} {readers : List (Reader α)} : (∀ reader ∈ readers, IsReader reader) →
      IsReader (firstOf readers)
  | building {α : Type} {reader : Reader α} (make : α → Pattern) : IsReader reader →
      IsReader (building reader make)
  | commaSeparated {item : Reader Pattern} (limit : Nat) (hasRest : Bool) : IsReader item →
      IsReader (commaSeparated item limit hasRest)
  | items {item : Reader Pattern} : IsReader item → IsReader (items item)
  | bracketed {α : Type} {inner : Cursor → Except ParseError (α × Cursor)}
      (opening closing : Char) : IsReader inner → IsReader (bracketed opening closing inner)
  | rest {p : Reader Pattern} : IsReader p → IsReader (rest p)
  | fieldRest {p : Reader Pattern} : IsReader p → IsReader (fieldRest p)
  | keyed {p : Reader Pattern} : IsReader p → IsReader (keyed p)
  | classPattern {p : Reader Pattern} : IsReader p → IsReader (classPattern p)
  | extractor {p : Reader Pattern} : IsReader p → IsReader (extractor p)
  | identifierOrBinder {p : Reader Pattern} : IsReader p → IsReader (identifierOrBinder p)
  | pattern (depth : Nat) : IsReader (pattern depth)

theorem IsReader.stays {α : Type} {reader : Cursor → Except ParseError (α × Cursor)}
    (isReader : IsReader reader) : Stays reader := by
  induction isReader with
  | string => exact string_onward
  | number => exact number_onward
  | lexeme token => exact lexeme_stays token
  | wildcard => exact wildcard_stays
  | firstOf _ ih => exact firstOf_stays ih
  | building make _ ih => exact building_stays make ih
  | commaSeparated limit hasRest _ ih => exact commaSeparated_stays ih limit hasRest
  | items _ ih => exact items_stays ih
  | bracketed opening closing _ ih => exact bracketed_stays opening closing ih
  | rest _ ih => exact rest_stays ih
  | fieldRest _ ih => exact fieldRest_stays ih
  | keyed _ ih => exact keyed_stays ih
  | classPattern _ ih => exact classPattern_stays ih
  | extractor _ ih => exact extractor_stays ih
  | identifierOrBinder _ ih => exact identifierOrBinder_stays ih
  | pattern depth => exact pattern_stays depth

/-- A reader that begins in a state of the cursor over a text leaves it in one, also where it
fails. -/
theorem IsReader.attained {α : Type} {reader : Cursor → Except ParseError (α × Cursor)}
    (isReader : IsReader reader) {text : Text} {c : Cursor} (attained : Attained text c) :
    (∀ a d, reader c = .ok (a, d) → Attained text d) ∧
      ∀ e, reader c = .error e → Attained text e.cursor :=
  ⟨fun _ _ read => attained.reaches ((isReader.stays c).ok read),
    fun _ failed => attained.reaches ((isReader.stays c).error failed).reaches⟩

end Pattern.Parser

/-! ## Open lists -/

namespace Grammar

open Pattern.Parser

/-- What is expected where some text begins. -/
inductive Spot where
  | pattern
  /-- A pattern that a name can be bound to. -/
  | bound
  | item (place : Place)
  | list (place : Place)

/-- The items of a list in front of a place where another one can begin. -/
inductive Preceding (place : Place) : List Form → Cursor → Cursor → Prop where
  | none (c : Cursor) : Preceding place [] c c
  | more {forms form b c a e f d} : Preceding place forms b c → Spells (.item place form) c a →
      Blanks a e → e.Spans [','.toNat] f → Blanks f d → Preceding place (forms ++ [form]) b d

/-- The text from a place on goes down to the items of a list that is still open. -/
inductive Descends : Spot → Cursor → Place → Cursor → Prop where
  | here {place c} : Descends (.list place) c place c
  | item {place forms b c p d} : Preceding place forms b c → Descends (.item place) c p d →
      Descends (.list place) b p d
  | element {c p d} : Descends .pattern c p d → Descends (.item .sequence) c p d
  | rest {place c a p d} : c.Spans Token.dots a → Descends .pattern a p d →
      Descends (.item place) c p d
  | keyValue {name c a b e f p d} : Key name c a → Blanks a b → b.Spans [':'.toNat] e →
      Blanks e f → Descends .pattern f p d → Descends (.item .fields) c p d
  | unbound {c p d} : Descends .bound c p d → Descends .pattern c p d
  | array {c a b p d} : c.Spans ['['.toNat] a → Blanks a b →
      Descends (.list .sequence) b p d → Descends .bound c p d
  | object {c a b p d} : c.Spans ['\x7b'.toNat] a → Blanks a b →
      Descends (.list .fields) b p d → Descends .bound c p d
  | tagArray {name c a b e p d} : Name isUpper name c a → a.Spans ['('.toNat] b → Blanks b e →
      Descends (.list .sequence) e p d → Descends .bound c p d
  | tagObject {name c a b e p d} : Name isUpper name c a → a.Spans ['\x7b'.toNat] b → Blanks b e →
      Descends (.list .fields) e p d → Descends .bound c p d
  | binder {name c a b p d} : CaptureName name c a → a.Spans ['@'.toNat] b →
      Descends .bound b p d → Descends .pattern c p d
  | extractor {name c a b e f p d} : c.Spans (Text.ofString "$") a → Name isNameStart name a b →
      b.Spans ['('.toNat] e → Blanks e f → Descends .pattern f p d → Descends .pattern c p d

/-- Dots, or a capture name with dots behind it. -/
def BeginsRest (c : Cursor) : Prop :=
  (∃ d, c.Spans Token.dots d) ∨ ∃ name a d, CaptureName name c a ∧ a.Spans Token.dots d

/-- A rest with a pattern that is no name and not nothing. -/
def ForeignRest (c : Cursor) : Prop :=
  ∃ form a d, c.Spans Token.dots a ∧ Spells (.pattern form) a d ∧
    (Form.rest form).holdsName = false

theorem beginsRest_of_spells {place : Place} {form : Form} {c d : Cursor}
    (spells : Spells (.item place form) c d) (isRest : form.isRest = true) : BeginsRest c := by
  cases spells with
  | dots dots => exact .inl ⟨_, dots⟩
  | rest dots => exact .inl ⟨_, dots⟩
  | namedRest name dots => exact .inr ⟨_, _, _, name, dots⟩
  | element derived => cases derived <;> cases isRest
  | _ => cases isRest

/-- An error says the truth about a text that begins somewhere: a second rest stands in an open list
behind one other rest, a rest that an object cannot have stands among the items of an open object,
and a character that is expected is not the next one. -/
def Truthful (spot : Spot) (c : Cursor) : ParseError → Prop
  | .malformed .multipleRests d =>
    ∃ place b forms form e, Descends spot c place b ∧ Preceding place forms b d ∧
      forms.countP Form.isRest = 1 ∧ Spells (.item place form) d e ∧ form.isRest = true
  | .malformed .expectedRestName d =>
    ∃ b forms, Descends spot c .fields b ∧ Preceding .fields forms b d ∧ ForeignRest d
  | .malformed (.expectedChar char) d => Token.startsWith (· == char.toNat) d.buffer = false
  | _ => True

/-- What is true of a part is true of the whole that goes down to it. -/
theorem Truthful.of_descends {part whole : Spot} {c d : Cursor} {e : ParseError}
    (truthful : Truthful part d e)
    (descends : ∀ place b, Descends part d place b → Descends whole c place b) :
    Truthful whole c e := by
  cases e with
  | integerTooLong => trivial
  | malformed reason place =>
    cases reason with
    | multipleRests =>
      obtain ⟨p, b, forms, form, e, within, found⟩ := truthful
      exact ⟨p, b, forms, form, e, descends p b within, found⟩
    | expectedRestName =>
      obtain ⟨b, forms, within, found⟩ := truthful
      exact ⟨b, forms, descends .fields b within, found⟩
    | expectedChar char => exact truthful
    | _ => trivial

/-- All errors of a reader say the truth about the text from where it begins. -/
def Tells {α : Type} (spot : Spot) (reader : Cursor → Except ParseError (α × Cursor)) : Prop :=
  ∀ c e, reader c = .error e → Truthful spot c e

/-! ## Literals -/

section Literals

variable {spot : Spot} {c d : Cursor} {e : ParseError}

theorem quotedBy_truthful {quote : Char} {plain : Token}
    (failed : c.quotedBy quote plain = .error e) : Truthful spot d e := by
  unfold Cursor.quotedBy at failed
  split at failed
  · cases failed
  · dsimp only at failed
    split at failed
    · next absent =>
      cases failed
      exact Cursor.acceptChar?_none absent
    · cases failed

theorem string_truthful (failed : c.string = .error e) : Truthful spot d e := by
  unfold Cursor.string at failed
  split at failed
  · exact quotedBy_truthful failed
  · exact quotedBy_truthful failed

theorem fraction_truthful (failed : c.fraction = .error e) : Truthful spot d e := by
  unfold Cursor.fraction at failed
  split at failed
  · cases failed
  · split at failed <;> cases failed
    trivial

theorem exponent_truthful (failed : c.exponent = .error e) : Truthful spot d e := by
  unfold Cursor.exponent at failed
  split at failed
  · cases failed
  · split at failed <;> cases failed
    trivial

theorem numeral_truthful (failed : c.numeral = .error e) : Truthful spot d e := by
  have course := Cursor.numeral_course c
  rw [failed] at course
  cases course with
  | badFraction other => exact fraction_truthful other
  | lone => trivial
  | badExponent present readFraction other => exact exponent_truthful other

theorem number_truthful (failed : c.number = .error e) : Truthful spot d e := by
  unfold Cursor.number at failed
  split at failed
  · next other =>
    cases failed
    exact numeral_truthful other
  · cases failed
  · split at failed <;> cases failed
    trivial

end Literals

/-! ## Alternatives and brackets -/

section Parts

variable {α : Type} {spot : Spot} {c : Cursor} {e : ParseError}

/-- When alternatives fail, one of them does where they begin. -/
theorem firstOf_error {readers : List (Reader α)}
    (unmoved : ∀ reader ∈ readers, ∀ d, reader c = .ok (none, d) → d = c)
    (failed : firstOf readers c = .error e) : ∃ reader ∈ readers, reader c = .error e := by
  induction readers with
  | nil => cases failed
  | cons reader readers ih =>
    simp only [firstOf] at failed
    split at failed
    · next next absent =>
      obtain rfl := unmoved reader List.mem_cons_self next absent
      obtain ⟨other, member, raised⟩ :=
        ih (fun r member => unmoved r (List.mem_cons_of_mem reader member)) failed
      exact ⟨other, List.mem_cons_of_mem reader member, raised⟩
    · exact ⟨reader, List.mem_cons_self, failed⟩

theorem firstOf_tells {readers : List (Reader α)}
    (unmoved : ∀ reader ∈ readers, ∀ {c d}, reader c = .ok (none, d) → d = c)
    (tells : ∀ reader ∈ readers, Tells spot reader) : Tells spot (firstOf readers) := by
  intro c e failed
  obtain ⟨reader, member, raised⟩ :=
    firstOf_error (fun reader member _ => unmoved reader member) failed
  exact tells reader member c e raised

theorem building_error {reader : Reader α} {make : α → Pattern}
    (failed : building reader make c = .error e) : reader c = .error e := by
  unfold building at failed
  split at failed
  · next other =>
    cases failed
    exact other
  · cases failed

theorem lexeme_error {token : Token} : lexeme token c ≠ .error e := by
  unfold lexeme
  split <;> nofun

/-- Brackets fail where the text in them does, or where the closing one is not. -/
theorem bracketed_truthful {opening closing : Char} {part : Spot}
    {inner : Cursor → Except ParseError (α × Cursor)} {d : Cursor} (tells : Tells part inner)
    (descends : ∀ a b, d.Spans [opening.toNat] a → Blanks a b →
      ∀ place p, Descends part b place p → Descends spot c place p)
    (failed : bracketed opening closing inner d = .error e) : Truthful spot c e := by
  unfold bracketed at failed
  split at failed
  · cases failed
  · next a opens =>
    split at failed
    · next other =>
      cases failed
      exact (tells _ _ other).of_descends
        (descends a _ (Cursor.acceptChar?_iff.mp opens) a.skipBlanks_spec.1)
    · split at failed
      · next absent =>
        cases failed
        exact Cursor.acceptChar?_none absent
      · cases failed

end Parts

/-! ## Lists of items -/

section Lists

variable {item : Reader Pattern} {place : Place}

/-- All errors of an item say the truth about the list that it is an item of. -/
def ItemTells (place : Place) (item : Reader Pattern) : Prop :=
  ∀ {forms b c e}, Preceding place forms b c → item c = .error e → Truthful (.list place) b e

theorem ItemTells.of_tells (tells : Tells (.item place) item) : ItemTells place item :=
  fun preceding failed =>
    (tells _ _ failed).of_descends fun _ _ within => .item preceding within

/-- A second rest is found behind exactly one other. -/
theorem commaSeparated_truthful (sound : Sound item (ItemAt place)) (stays : Stays item)
    (tells : ItemTells place item) {limit : Nat} {hasRest : Bool} {forms : List Form}
    {b c : Cursor} {e : ParseError} (preceding : Preceding place forms b c)
    (counted : forms.countP Form.isRest = hasRest.toNat)
    (failed : commaSeparated item limit hasRest c = .error e) : Truthful (.list place) b e := by
  -- The list stays open from its beginning on; the items read so far and their rests are carried.
  induction limit generalizing hasRest forms c with
  | zero => cases failed
  | succ limit ih =>
    simp only [commaSeparated] at failed
    split at failed
    · next other =>
      cases failed
      exact tells preceding other
    · cases failed
    · next first next read =>
      obtain ⟨form, rfl, a, spells, behind⟩ := sound.something read
      rw [Form.isRest_tree] at failed
      split at failed
      · next both =>
        obtain ⟨rfl, isRest⟩ := Bool.and_eq_true_iff.mp both
        cases failed
        rw [Cursor.rewindTo_eq ((stays c).ok read)]
        exact ⟨place, b, forms, form, a, .here, preceding, counted, spells, isRest⟩
      · next single =>
        split at failed
        · cases failed
        · next d accepted =>
          split at failed
          · next other =>
            cases failed
            refine ih (.more preceding spells (behind.trans next.skipBlanks_spec.1)
              (Cursor.acceptChar?_iff.mp accepted) d.skipBlanks_spec.1) ?_ other
            rw [List.countP_append, counted, List.countP_singleton]
            revert single
            cases form.isRest <;> cases hasRest <;> decide
          · cases failed

theorem items_tells (sound : Sound item (ItemAt place)) (stays : Stays item)
    (tells : ItemTells place item) : Tells (.list place) (items item) :=
  fun c _ failed => commaSeparated_truthful sound stays tells (.none c) rfl failed

end Lists

/-! ## The readers of each construct -/

section Readers

variable {pattern : Reader Pattern} {c : Cursor} {e : ParseError}

/-- What the readers of each construct ask of the reader of nested patterns. -/
structure Reliable (pattern : Reader Pattern) : Prop where
  sound : Sound pattern PatternAt
  stays : Stays pattern
  tells : Tells .pattern pattern

theorem rest_tells {place : Place} (reliable : Reliable pattern) :
    Tells (.item place) (rest pattern) := by
  intro c e failed
  unfold rest at failed
  split at failed
  · cases failed
  · split at failed
    · cases failed
    · next next accepted =>
      split at failed
      · next other =>
        cases failed
        exact (reliable.tells _ _ other).of_descends fun _ _ within =>
          .rest (Cursor.accept?_iff.mp accepted) within
      · cases failed

theorem sequenceItems_tells (reliable : Reliable pattern) :
    Tells (.list .sequence) (sequenceItems pattern) := by
  refine items_tells (sequenceItem_sound reliable.sound) ?_
    (ItemTells.of_tells (firstOf_tells ?_ ?_))
  · exact firstOf_stays (List.forall_mem_cons.mpr
      ⟨rest_stays reliable.stays, List.forall_mem_singleton.mpr reliable.stays⟩)
  · exact List.forall_mem_cons.mpr ⟨(rest_sound reliable.sound).nothing,
      List.forall_mem_singleton.mpr reliable.sound.nothing⟩
  · exact List.forall_mem_cons.mpr ⟨rest_tells reliable, List.forall_mem_singleton.mpr
      fun c e failed => (reliable.tells c e failed).of_descends fun _ _ => .element⟩

/-- A rest that is found and holds neither a name nor nothing holds another pattern. -/
theorem foreignRest_of_rest (sound : Sound pattern PatternAt) {found : Pattern} {d : Cursor}
    (read : rest pattern c = .ok (some found, d))
    (unnamed : ∀ name, found ≠ .rest (.identifier name))
    (filled : found ≠ .rest .wildcard) : ForeignRest c := by
  unfold rest at read
  split at read
  · cases read
    exact absurd rfl (unnamed _)
  · split at read
    · cases read
    · next a accepted =>
      split at read
      · cases read
      · next held d inside =>
        cases held with
        | none =>
          cases read
          exact absurd rfl filled
        | some tree =>
          cases read
          obtain ⟨form, rfl, spells⟩ := sound.something inside
          refine ⟨form, a, _, Cursor.accept?_iff.mp accepted, spells, ?_⟩
          cases form with
          | wildcard => exact absurd rfl filled
          | identifier name => exact absurd rfl (unnamed name)
          | _ => rfl

/-- A rest that an object cannot have is reported where it begins. -/
theorem fieldRest_tells (reliable : Reliable pattern) : ItemTells .fields (fieldRest pattern) := by
  intro forms b c e preceding failed
  unfold fieldRest at failed
  split at failed
  · cases failed
  · cases failed
  · next found next unnamed filled read =>
    cases failed
    rw [Cursor.rewindTo_eq ((rest_stays reliable.stays c).ok read)]
    exact ⟨b, forms, .here, preceding, foreignRest_of_rest reliable.sound read unnamed filled⟩
  · exact ItemTells.of_tells (rest_tells reliable) preceding failed

theorem key_error (failed : key c = .error e) : c.string = .error e := by
  obtain ⟨reader, member, raised⟩ := firstOf_error key_unmoved failed
  rcases List.mem_cons.mp member with rfl | later
  · exact raised
  · obtain rfl := List.mem_singleton.mp later
    exact absurd raised lexeme_error

theorem keyed_tells (reliable : Reliable pattern) : Tells (.item .fields) (keyed pattern) := by
  intro c e failed
  unfold keyed at failed
  split at failed
  · next other =>
    cases failed
    exact string_truthful (key_error other)
  · cases failed
  · next name next read =>
    have named := key_something read
    split at failed
    · cases failed
    · next behind accepted =>
      have colon := Cursor.acceptChar?_iff.mp accepted
      split at failed
      · next other =>
        cases failed
        exact (reliable.tells _ _ other).of_descends fun _ _ within =>
          .keyValue named next.skipBlanks_spec.1 colon behind.skipBlanks_spec.1 within
      · cases failed
        trivial
      · cases failed

theorem fields_tells (reliable : Reliable pattern) : Tells (.list .fields) (fields pattern) := by
  refine items_tells (field_sound reliable.sound) ?_ ?_
  · exact firstOf_stays (List.forall_mem_cons.mpr
      ⟨fieldRest_stays reliable.stays, List.forall_mem_singleton.mpr (keyed_stays reliable.stays)⟩)
  · intro forms b c e preceding failed
    obtain ⟨reader, member, raised⟩ := firstOf_error (List.forall_mem_cons.mpr
      ⟨fun _ => (fieldRest_sound reliable.sound).nothing,
        List.forall_mem_singleton.mpr fun _ => (keyed_sound reliable.sound).nothing⟩) failed
    rcases List.mem_cons.mp member with rfl | later
    · exact fieldRest_tells reliable preceding raised
    · obtain rfl := List.mem_singleton.mp later
      exact ItemTells.of_tells (keyed_tells reliable) preceding raised

theorem array_tells (reliable : Reliable pattern) : Tells .bound (array pattern) :=
  fun _ _ failed => bracketed_truthful (sequenceItems_tells reliable)
    (fun _ _ opens blanks _ _ => .array opens blanks) (building_error failed)

theorem object_tells (reliable : Reliable pattern) : Tells .bound (object pattern) :=
  fun _ _ failed => bracketed_truthful (fields_tells reliable)
    (fun _ _ opens blanks _ _ => .object opens blanks) (building_error failed)

theorem classPattern_tells (reliable : Reliable pattern) : Tells .bound (classPattern pattern) := by
  intro c e failed
  unfold classPattern at failed
  split at failed
  · cases failed
  · next l next lexed =>
    obtain ⟨n, rfl, named⟩ := lex?_className_iff.mp lexed
    obtain ⟨reader, member, raised⟩ := firstOf_error (components_unmoved n) failed
    rcases List.mem_cons.mp member with rfl | later
    · exact bracketed_truthful (fields_tells reliable)
        (fun _ _ opens blanks _ _ => .tagObject named opens blanks) (building_error raised)
    · rcases List.mem_cons.mp later with rfl | last
      · exact bracketed_truthful (sequenceItems_tells reliable)
          (fun _ _ opens blanks _ _ => .tagArray named opens blanks) (building_error raised)
      · obtain rfl := List.mem_singleton.mp last
        cases raised

theorem extractor_tells (reliable : Reliable pattern) : Tells .pattern (extractor pattern) := by
  intro c e failed
  unfold extractor at failed
  split at failed
  · cases failed
  · next l next lexed =>
    obtain ⟨n, a, rfl, dollar, named⟩ := lex?_extractorName_iff.mp lexed
    split at failed
    · next other =>
      cases failed
      exact bracketed_truthful reliable.tells
        (fun _ _ opens blanks _ _ => .extractor dollar named opens blanks) other
    · cases failed
    · cases failed

theorem identifierOrBinder_truthful (reliable : Reliable pattern)
    (free : ∀ w ∈ Token.keywords, ∀ d, ¬Word w c d)
    (failed : identifierOrBinder pattern c = .error e) : Truthful .pattern c e := by
  unfold identifierOrBinder at failed
  split at failed
  · cases failed
  · next l next lexed =>
    obtain ⟨n, rfl, named⟩ := lex?_identifier_iff.mp lexed
    split at failed
    · cases failed
    · next behind accepted =>
      have bound := Cursor.acceptChar?_iff.mp accepted
      split at failed
      · next other =>
        cases failed
        have structures : Tells .bound
            (firstOf [classPattern pattern, array pattern, object pattern]) := by
          refine firstOf_tells ?_ ?_ <;>
            simp only [List.forall_mem_cons, List.not_mem_nil, false_implies, implies_true,
              and_true]
          · exact ⟨(classPattern_sound reliable.sound).nothing,
              (array_sound reliable.sound).nothing, (object_sound reliable.sound).nothing⟩
          · exact ⟨classPattern_tells reliable, array_tells reliable, object_tells reliable⟩
        exact (structures _ _ other).of_descends fun _ _ => .binder ⟨named, free⟩ bound
      · cases failed
        trivial
      · cases failed

theorem decisive_tells (reliable : Reliable pattern) :
    ∀ reader ∈ decisive pattern, Tells .pattern reader := by
  have word {token : Token} {make : Text → Pattern} :
      Tells .pattern (building (lexeme token) make) :=
    fun _ _ failed => absurd (building_error failed) lexeme_error
  have unbound {reader : Reader Pattern} (tells : Tells .bound reader) : Tells .pattern reader :=
    fun c e failed => (tells c e failed).of_descends fun _ _ => .unbound
  simp only [decisive, List.forall_mem_cons, List.not_mem_nil, false_implies, implies_true,
    and_true]
  refine ⟨fun c e failed => ?_, word, word, word,
    fun _ _ failed => number_truthful (building_error failed),
    fun _ _ failed => string_truthful (building_error failed),
    unbound (classPattern_tells reliable), extractor_tells reliable, unbound (array_tells reliable),
    unbound (object_tells reliable)⟩
  unfold wildcard at failed
  split at failed <;> cases failed

theorem patternStep_reliable (reliable : Reliable pattern) : Reliable (patternStep pattern) where
  sound := patternStep_sound reliable.sound
  stays := patternStep_stays reliable.stays
  tells c e failed := by
    have unmoved : ∀ reader ∈ decisive pattern, ∀ d, reader c = .ok (none, d) → d = c :=
      fun reader member _ => (decisive_sound reliable.sound reader member).nothing
    rw [patternStep_eq] at failed
    split at failed
    · next next absent =>
      obtain ⟨rfl, each⟩ := firstOf_nothing unmoved absent
      exact identifierOrBinder_truthful reliable (no_keyword_of_decisive each) failed
    · obtain ⟨reader, member, raised⟩ := firstOf_error unmoved failed
      exact decisive_tells reliable reader member c e raised

end Readers

theorem pattern_reliable (depth : Nat) : Reliable (pattern depth) := by
  induction depth with
  | zero => exact ⟨pattern_sound 0, pattern_stays 0, fun c e failed => nomatch failed⟩
  | succ depth ih => exact patternStep_reliable ih

/-- The items of a list that is open in a text, possibly the argument list itself. -/
def OpenList (text : Text) (place : Place) (b : Cursor) : Prop :=
  ∃ a, Blanks (Cursor.start text) a ∧ Descends (.list .sequence) a place b

/-- What an error says of a text is true. -/
theorem parse_truthful {text : Text} {e : ParseError} (failed : parse text = .error e) :
    ∃ a, Blanks (Cursor.start text) a ∧ Truthful (.list .sequence) a e := by
  refine ⟨_, (Cursor.start text).skipBlanks_spec.1, ?_⟩
  unfold parse at failed
  dsimp only at failed
  split at failed
  · next other =>
    cases failed
    exact sequenceItems_tells (pattern_reliable text.length) _ _ other
  · split at failed <;> cases failed
    trivial

end Grammar

namespace Pattern.Parser

open Grammar

theorem error_of_map {α : Type} {result : Except ParseError α} {e : ParseError}
    (failed : result.map (fun _ => ()) = .error e) : result = .error e := by
  cases result <;> cases failed
  rfl

/-- Where errors are reported. In every state of the cursor over a text the buffer is what is left
behind the position, and every reader keeps to these states, also where text is put back. So an
error has a column of the text, with the caret under it, and what it says is true of the text there:
a second rest begins there behind one other in its list, a rest begins there that its object cannot
have, or an expected bracket or quote does not stand there. -/
theorem errors_are_in_place (text : Text) :
    (∀ c, Cursor.Attained text c → c.source = text ∧ c.buffer = text.drop c.position ∧
        c.position = text.length - c.buffer.length) ∧
      (∀ {α : Type} (reader : Cursor → Except ParseError (α × Cursor)), IsReader reader →
        ∀ c, Cursor.Attained text c →
          (∀ a d, reader c = .ok (a, d) → Cursor.Attained text d) ∧
            ∀ e, reader c = .error e → Cursor.Attained text e.cursor) ∧
      ∀ reason cursor, parse text = .error (.malformed reason cursor) →
        Cursor.Attained text cursor ∧ cursor.source = text ∧
        1 ≤ cursor.column ∧ cursor.column ≤ text.length + 1 ∧
        cursor.buffer = text.drop (cursor.column - 1) ∧
        (ParseError.malformed reason cursor).message =
          reason.text ++ Text.ofString " at column " ++ Text.ofNat cursor.column ++
            '\n'.toNat :: (text ++ '\n'.toNat ::
              (Text.spaces (cursor.column - 1) ++ ['^'.toNat])) ∧
        (reason = .multipleRests → BeginsRest cursor ∧
          ∃ place b forms form d, OpenList text place b ∧ Preceding place forms b cursor ∧
            forms.countP Form.isRest = 1 ∧ Spells (.item place form) cursor d ∧
            form.isRest = true) ∧
        (reason = .expectedRestName → BeginsRest cursor ∧ ForeignRest cursor ∧
          ∃ b forms, OpenList text .fields b ∧ Preceding .fields forms b cursor) ∧
        ∀ char, reason = .expectedChar char →
          Token.startsWith (· == char.toNat) cursor.buffer = false := by
  refine ⟨fun c => Cursor.Attained.position, fun reader isReader c => isReader.attained, ?_⟩
  intro reason cursor failed
  have attained : Cursor.Attained text cursor := Cursor.attained_iff.mpr (parse_error failed)
  obtain ⟨source, buffer, position⟩ := attained.position
  obtain ⟨a, blanks, truthful⟩ := parse_truthful failed
  refine ⟨attained, source, Nat.le_add_left 1 _, ?_, buffer, ?_, ?_, ?_, ?_⟩
  · rw [Cursor.column]
    omega
  · have consumed : cursor.consumed = cursor.column - 1 := by
      rw [Cursor.consumed, source, ← position]
      rfl
    rw [ParseError.message, Cursor.report, consumed, source]
  · rintro rfl
    obtain ⟨place, b, forms, form, d, within, preceding, one, spells, isRest⟩ := truthful
    exact ⟨beginsRest_of_spells spells isRest, place, b, forms, form, d, ⟨a, blanks, within⟩,
      preceding, one, spells, isRest⟩
  · rintro rfl
    obtain ⟨b, forms, within, preceding, foreign⟩ := truthful
    have begins : BeginsRest cursor := by
      obtain ⟨form, d, e, dots, -⟩ := foreign
      exact .inl ⟨d, dots⟩
    exact ⟨begins, foreign, b, forms, ⟨a, blanks, within⟩, preceding⟩
  · rintro char rfl
    exact truthful

/-- The second rest of an array is put back in front of the cursor, and its error is reported in
column 7, where it begins. -/
theorem errors_are_in_place_second :
    ∃ text cursor, parse text = .error (.malformed .multipleRests cursor) ∧
      pattern 2 (Cursor.start text) = .error (.malformed .multipleRests cursor) ∧
      Cursor.Attained text cursor ∧ cursor.buffer = text.drop cursor.position ∧
      cursor.column = 7 ∧ BeginsRest cursor := by
  let text := Text.ofString "[..., ...x]"
  let cursor : Cursor := ⟨text, Text.ofString "...x]", 6⟩
  have read : (parse text).map (fun _ => ()) = .error (.malformed .multipleRests cursor) := by
    decide +kernel
  have inner : (pattern 2 (Cursor.start text)).map (fun _ => ()) =
      .error (.malformed .multipleRests cursor) := by decide +kernel
  obtain ⟨states, readers, errors⟩ := errors_are_in_place text
  have attained : Cursor.Attained text cursor :=
    (readers (pattern 2) (.pattern 2) _ .start).2 _ (error_of_map inner)
  exact ⟨text, cursor, error_of_map read, error_of_map inner, attained, (states _ attained).2.1,
    rfl, ((errors _ _ (error_of_map read)).2.2.2.2.2.2.1 rfl).1⟩

end Pattern.Parser

end PatternDispatch
