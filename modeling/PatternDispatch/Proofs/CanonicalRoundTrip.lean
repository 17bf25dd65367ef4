import PatternDispatch.Proofs.QuotedText
import PatternDispatch.Proofs.ReadableTree
import PatternDispatch.Pattern.Canonical

/-!
The canonical spelling of a tree is read back as the tree, with its numbers normalized. Every part
of a canonical spelling derives that part of the grammar whatever stands behind it, as long as an
item can end there, so the parts can be put together without a look at the lexer.
-/

namespace PatternDispatch

open Character

namespace Pattern

/-! ## Trees up to their numbers -/

mutual

/-- The tree with each number replaced. -/
def mapNumbers (f : Number → Number) : Pattern → Pattern
  | number value => number (f value)
  | binder name inner => binder name (inner.mapNumbers f)
  | array items => array (mapItemNumbers f items)
  | rest inner => rest (inner.mapNumbers f)
  | keyValue name inner => keyValue name (inner.mapNumbers f)
  | object items => object (mapItemNumbers f items)
  | tagArray name items => tagArray name (mapItemNumbers f items)
  | tagObject name items => tagObject name (mapItemNumbers f items)
  | extractorOf name inner => extractorOf name (inner.mapNumbers f)
  | argumentList items => argumentList (mapItemNumbers f items)
  | wildcard => wildcard
  | null => null
  | undefined => undefined
  | boolean value => boolean value
  | string value => string value
  | identifier name => identifier name
  | key name => key name
  | tag name => tag name
  | extractor name => extractor name
  | blank => blank

def mapItemNumbers (f : Number → Number) : List Pattern → List Pattern
  | [] => []
  | item :: items => item.mapNumbers f :: mapItemNumbers f items

end

mutual

/-- The numbers of a tree in preorder. -/
def numbers : Pattern → List Number
  | number value => [value]
  | binder _ inner | rest inner | keyValue _ inner | extractorOf _ inner => inner.numbers
  | array items | object items | argumentList items | tagArray _ items | tagObject _ items =>
    itemNumbers items
  | _ => []

def itemNumbers : List Pattern → List Number
  | [] => []
  | item :: items => item.numbers ++ itemNumbers items

end

/-- The tree that the canonical spelling denotes. -/
def normalized (p : Pattern) : Pattern := p.mapNumbers Number.normalized

/-- All of a tree but its numbers. -/
def shape (p : Pattern) : Pattern := p.mapNumbers fun _ => .int 0

theorem mapItemNumbers_eq (f : Number → Number) (items : List Pattern) :
    mapItemNumbers f items = items.map (mapNumbers f) := by
  induction items with
  | nil => rfl
  | cons item items ih => rw [mapItemNumbers, ih, List.map_cons]

theorem isRest_mapNumbers (f : Number → Number) (p : Pattern) :
    (p.mapNumbers f).isRest = p.isRest := by
  cases p <;> simp only [mapNumbers, isRest]

theorem isStructure_mapNumbers (f : Number → Number) (p : Pattern) :
    (p.mapNumbers f).isStructure = p.isStructure := by
  cases p <;> simp only [mapNumbers, isStructure]

/-- A rest writes out what it holds, unless it holds anything. -/
theorem canonical_rest {inner : Pattern} (held : inner ≠ .wildcard) :
    (rest inner).canonical = Text.ofString "..." ++ inner.canonical := by
  cases inner <;> first | exact absurd rfl held | simp only [canonical]

theorem mapNumbers_ne_wildcard {f : Number → Number} {p : Pattern} (held : p ≠ .wildcard) :
    p.mapNumbers f ≠ .wildcard := by
  cases p <;> simp_all [mapNumbers]

mutual

/-- Normalizing does not change the spelling. -/
theorem normalized_canonical (p : Pattern) :
    (p.mapNumbers Number.normalized).canonical = p.canonical := by
  cases p with
  | number value => simp only [mapNumbers, canonical, Number.normalized_spelling]
  | binder name inner => simp only [mapNumbers, canonical, normalized_canonical inner]
  | array items => simp only [mapNumbers, canonical, normalized_joined items]
  | rest inner =>
    by_cases held : inner = .wildcard
    · subst held
      simp only [mapNumbers]
    · rw [mapNumbers, canonical_rest held, canonical_rest (mapNumbers_ne_wildcard held),
        normalized_canonical inner]
  | keyValue name inner => simp only [mapNumbers, canonical, normalized_canonical inner]
  | object items => simp only [mapNumbers, canonical, normalized_joined items]
  | tagArray name items => simp only [mapNumbers, canonical, normalized_joined items]
  | tagObject name items => simp only [mapNumbers, canonical, normalized_joined items]
  | extractorOf name inner => simp only [mapNumbers, canonical, normalized_canonical inner]
  | argumentList items => simp only [mapNumbers, canonical, normalized_joined items]
  | _ => simp only [mapNumbers]

theorem normalized_joined (items : List Pattern) :
    joined (mapItemNumbers Number.normalized items) = joined items := by
  match items with
  | [] => rfl
  | [item] => simp only [mapItemNumbers, joined, normalized_canonical item]
  | item :: next :: items =>
    have later := normalized_joined (next :: items)
    simp only [mapItemNumbers] at later
    simp only [mapItemNumbers, joined, normalized_canonical item, later]

end

mutual

theorem mapNumbers_mapNumbers (f g : Number → Number) (p : Pattern) :
    (p.mapNumbers f).mapNumbers g = p.mapNumbers (g ∘ f) := by
  cases p with
  | binder name inner | rest inner | keyValue name inner | extractorOf name inner =>
    simp only [mapNumbers, mapNumbers_mapNumbers f g inner]
  | array items | object items | tagArray name items | tagObject name items
  | argumentList items => simp only [mapNumbers, mapItemNumbers_mapItemNumbers f g items]
  | _ => simp only [mapNumbers, Function.comp]

theorem mapItemNumbers_mapItemNumbers (f g : Number → Number) (items : List Pattern) :
    mapItemNumbers g (mapItemNumbers f items) = mapItemNumbers (g ∘ f) items := by
  match items with
  | [] => rfl
  | item :: items =>
    simp only [mapItemNumbers, mapNumbers_mapNumbers f g item,
      mapItemNumbers_mapItemNumbers f g items]

end

mutual

theorem numbers_mapNumbers (f : Number → Number) (p : Pattern) :
    (p.mapNumbers f).numbers = p.numbers.map f := by
  cases p with
  | binder name inner | rest inner | keyValue name inner | extractorOf name inner =>
    simp only [mapNumbers, numbers, numbers_mapNumbers f inner]
  | array items | object items | tagArray name items | tagObject name items
  | argumentList items => simp only [mapNumbers, numbers, itemNumbers_mapItemNumbers f items]
  | _ => simp only [mapNumbers, numbers, List.map_cons, List.map_nil]

theorem itemNumbers_mapItemNumbers (f : Number → Number) (items : List Pattern) :
    itemNumbers (mapItemNumbers f items) = (itemNumbers items).map f := by
  match items with
  | [] => rfl
  | item :: items =>
    simp only [mapItemNumbers, itemNumbers, numbers_mapNumbers f item,
      itemNumbers_mapItemNumbers f items, List.map_append]

end

theorem shape_normalized (p : Pattern) : p.normalized.shape = p.shape :=
  mapNumbers_mapNumbers _ _ p

theorem numbers_normalized (p : Pattern) :
    p.normalized.numbers.map Number.exact = p.numbers.map Number.exact := by
  rw [normalized, numbers_mapNumbers, List.map_map]
  congr 1
  funext n
  exact Number.normalized_exact n

end Pattern

namespace Grammar

open Pattern

/-! ## Tokens in a canonical spelling -/

/-- An item can end in front of this text. -/
def Stops (r : Text) : Prop := ∀ b ∈ r.head?, isFollower b = true

/-- A list can end in front of this text. -/
def Closes (r : Text) : Prop := ∀ b ∈ r.head?, isCloser b = true

theorem Closes.stops {r : Text} (closes : Closes r) : Stops r := fun b head => by
  rw [isFollower, closes b head, Bool.or_true]

theorem Stops.no_start {r : Text} (stops : Stops r) {isMember : CodePoint → Bool}
    (others : ∀ b, isFollower b = true → isMember b = false) :
    Token.startsWith isMember r = false := by
  rw [Token.startsWith_eq]
  cases head : r.head? with
  | none => rfl
  | some b => exact others b (stops b head)

theorem isNamePart_of_follower {b : CodePoint} (follower : isFollower b = true) :
    isNamePart b = false := by
  simp only [isFollower, isCloser, Bool.or_eq_true, beq_iff_eq] at follower
  rcases follower with rfl | (rfl | rfl) | rfl <;> rfl

theorem goesOn_of_follower {b : CodePoint} (follower : isFollower b = true) :
    Numeral.goesOn b = false := by
  simp only [isFollower, isCloser, Bool.or_eq_true, beq_iff_eq] at follower
  rcases follower with rfl | (rfl | rfl) | rfl <;> rfl

section Tokens

variable {c : Cursor} {r name : Text}

theorem word_of_buffer {w : Text} (same : c.buffer = w ++ r)
    (stop : Token.startsWith isWord r = false) : Word w c (c.advance w.length) :=
  ⟨Cursor.Spans.of_buffer same, by rw [Cursor.Spans.buffer_advance same]; exact stop⟩

theorem name_of_buffer {isFirst : CodePoint → Bool} (isName : Token.IsName isFirst name)
    (same : c.buffer = name ++ r) (stop : Token.startsWith isNamePart r = false) :
    Name isFirst name c (c.advance name.length) :=
  ⟨Cursor.Spans.of_buffer same, isName, by rw [Cursor.Spans.buffer_advance same]; exact stop⟩

/-- A capture name stands wherever no name goes on behind it. -/
theorem captureName_of_buffer (isName : IsCaptureName name) (same : c.buffer = name ++ r)
    (stopName : Token.startsWith isNamePart r = false) :
    CaptureName name c (c.advance name.length) := by
  refine ⟨name_of_buffer isName.1 same stopName, fun w member e word => ?_⟩
  have letters : ∀ w ∈ Token.keywords, ∀ b ∈ w, isNamePart b = true := by decide
  obtain ⟨s, whole, ends⟩ := Token.word_iff.mp (exists_word_iff.mp ⟨e, word⟩)
  have free := Bool.eq_false_iff.mp (isName.2 w member)
  rw [same] at whole
  rcases List.append_eq_append_iff.mp whole with ⟨t, longer, behind⟩ | ⟨t, shorter, behind⟩
  · -- The keyword would reach beyond the name.
    cases t with
    | nil =>
      rw [List.append_nil] at longer
      refine free (Token.word_iff.mpr ⟨[], by rw [longer, List.append_nil], rfl⟩)
    | cons b bs =>
      have letter : isNamePart b = true := letters w member b (by rw [longer]; simp)
      rw [behind] at stopName
      exact Bool.eq_false_iff.mp stopName letter
  · refine free (Token.word_iff.mpr ⟨t, shorter, ?_⟩)
    cases t with
    | nil => rfl
    | cons b bs =>
      rw [behind] at ends
      exact ends

end Tokens

/-! ## Parts of a canonical spelling -/

/-- The canonical spelling of a tree derives it, normalized, wherever an item can end behind it. -/
def Spelled : Role → Pattern → Prop
  | .pattern, p => ∀ (c : Cursor) r, c.buffer = p.canonical ++ r → Stops r → ∃ form,
      form.tree = p.normalized ∧ Spells (.pattern form) c (c.advance p.canonical.length)
  | .item place, p => ∀ (c : Cursor) r, c.buffer = p.canonical ++ r → Stops r → ∃ form,
      form.tree = p.normalized ∧ Spells (.item place form) c (c.advance p.canonical.length)

section Parts

variable {place : Place} {items : List Pattern} {name : Text}

theorem spells_joined (each : ∀ item ∈ items, Spelled (.item place) item) (c : Cursor) (r : Text)
    (same : c.buffer = joined items ++ r) (closes : Closes r) :
    ∃ forms, Form.trees forms = mapItemNumbers Number.normalized items ∧
      Spells (.items place forms false) c (c.advance (joined items).length) := by
  induction items generalizing c with
  | nil => exact ⟨[], rfl, by simpa [joined, Cursor.advance] using Spells.none⟩
  | cons item items ih =>
    cases items with
    | nil =>
      obtain ⟨form, tree, spells⟩ := each item (by simp) c r same closes.stops
      exact ⟨[form], by simp only [Form.trees, tree, mapItemNumbers, normalized], .one spells⟩
    | cons next items =>
      have parts : c.buffer = item.canonical ++ (','.toNat :: (joined (next :: items) ++ r)) := by
        rw [same]
        simp [joined]
      have comma := Cursor.Spans.buffer_advance parts
      have behind := Cursor.Spans.buffer_advance (w := [','.toNat]) comma
      obtain ⟨form, tree, spells⟩ := each item (by simp) c _ parts fun b head => by
        cases head
        rfl
      obtain ⟨forms, trees, later⟩ := ih (fun p member => each p (by simp [member])) _ behind
      cases forms with
      | nil => cases trees
      | cons g forms =>
        refine ⟨form :: g :: forms, ?_, ?_⟩
        · rw [Form.trees, trees, tree]
          rfl
        · have reached := ((Cursor.Spans.of_buffer parts).trans
            (Cursor.Spans.of_buffer (w := [','.toNat]) comma)).trans (Cursor.Spans.of_buffer behind)
          have whole : (item.canonical ++ [','.toNat]) ++ joined (next :: items) =
              joined (item :: next :: items) := by simp [joined]
          rw [whole] at reached
          have spelled := Spells.more spells (Blanks.refl _)
            (Cursor.Spans.of_buffer (w := [','.toNat]) comma) (Blanks.refl _) later
          rwa [reached.2] at spelled

theorem spells_enclosed {opening closing : Char} (closer : isCloser closing.toNat = true)
    (each : ∀ item ∈ items, Spelled (.item place) item) (oneRest : items.countP Pattern.isRest ≤ 1)
    (c : Cursor) (r : Text) (same : c.buffer = bracketed opening closing (joined items) ++ r) :
    ∃ forms, Form.trees forms = mapItemNumbers Number.normalized items ∧
      Spells (.enclosed opening closing place forms false) c
        (c.advance (bracketed opening closing (joined items)).length) := by
  have opens : c.buffer = [opening.toNat] ++ (joined items ++ ([closing.toNat] ++ r)) := by
    rw [same, bracketed]
    simp
  have behind := Cursor.Spans.buffer_advance opens
  have last := Cursor.Spans.buffer_advance behind
  obtain ⟨forms, trees, spells⟩ := spells_joined each _ _ behind fun b head => by
    cases head
    exact closer
  have rests : AtMostOneRest forms := by
    rw [AtMostOneRest, ← Form.countP_trees, trees, mapItemNumbers_eq, List.countP_map]
    refine le_of_eq_of_le (congrArg (List.countP · items) ?_) oneRest
    funext p
    exact isRest_mapNumbers _ p
  have reached := ((Cursor.Spans.of_buffer opens).trans (Cursor.Spans.of_buffer behind)).trans
    (Cursor.Spans.of_buffer last)
  have whole : ([opening.toNat] ++ joined items) ++ [closing.toNat] =
      bracketed opening closing (joined items) := by simp [bracketed]
  rw [whole] at reached
  have spelled := Spells.enclosed (Cursor.Spans.of_buffer opens) (Blanks.refl _) spells
    (Blanks.refl _) (Cursor.Spans.of_buffer last) rests
  rw [reached.2] at spelled
  exact ⟨forms, trees, spelled⟩

end Parts

/-! ## Patterns -/

section Patterns

variable {name : Text} {inner : Pattern} {items : List Pattern}

/-- A word is spelled by itself. -/
theorem spelled_word {p : Pattern} (form : Form) (tree : form.tree = p.normalized)
    (rule : ∀ {c d}, Word p.canonical c d → Spells (.pattern form) c d) : Spelled .pattern p :=
  fun _ _ same stops =>
    ⟨form, tree, rule (word_of_buffer same (stops.no_start fun _ => isWord_of_follower))⟩

theorem spelled_wildcard : Spelled .pattern .wildcard := fun _ _ same _ =>
  ⟨.wildcard, rfl, .wildcard (Cursor.Spans.of_buffer same)⟩

theorem spelled_number {value : Number} (isLiteral : value.IsLiteral) :
    Spelled .pattern (.number value) := by
  intro c r same stops
  simp only [canonical] at same ⊢
  obtain ⟨plus, numeral, spelling, written, denotes⟩ := Number.exists_numeral isLiteral
  rw [← spelling] at same ⊢
  have read := Cursor.number_text written denotes same (stops.no_start fun _ => goesOn_of_follower)
  exact ⟨.number (numeral.text plus) value.normalized, rfl,
    .number read (Cursor.Spans.of_buffer same)⟩

theorem spelled_string (value : Text) : Spelled .pattern (.string value) := by
  intro c r same _
  simp only [canonical] at same ⊢
  exact ⟨.string value, rfl, .string (Cursor.string_quoted same)⟩

theorem spelled_identifier (isName : IsCaptureName name) :
    Spelled .pattern (.identifier name) := by
  intro c r same stops
  simp only [canonical] at same ⊢
  exact ⟨.identifier name, rfl,
    .identifier (captureName_of_buffer isName same (stops.no_start fun _ => isNamePart_of_follower))⟩

theorem spelled_binder (isName : IsCaptureName name) (structured : inner.isStructure = true)
    (spelled : Spelled .pattern inner) : Spelled .pattern (.binder name inner) := by
  intro c r same stops
  simp only [canonical] at same ⊢
  have parts : c.buffer = name ++ (['@'.toNat] ++ (inner.canonical ++ r)) := by
    rw [same]
    simp
  have bound := Cursor.Spans.buffer_advance parts
  have behind := Cursor.Spans.buffer_advance bound
  obtain ⟨form, tree, spells⟩ := spelled _ _ behind stops
  have isStructure : form.isStructure = true := by
    rw [← Form.isStructure_tree, tree, normalized, isStructure_mapNumbers, structured]
  have reached := ((Cursor.Spans.of_buffer parts).trans (Cursor.Spans.of_buffer bound)).trans
    (Cursor.Spans.of_buffer behind)
  have whole : (name ++ ['@'.toNat]) ++ inner.canonical = name ++ '@'.toNat :: inner.canonical := by
    simp
  rw [whole] at reached
  have made := Spells.binder (captureName_of_buffer isName parts rfl)
    (Cursor.Spans.of_buffer bound) isStructure spells
  rw [reached.2] at made
  exact ⟨.binder name form, by rw [Form.tree, tree]; rfl, made⟩

theorem spelled_array (each : ∀ item ∈ items, Spelled (.item .sequence) item)
    (oneRest : items.countP Pattern.isRest ≤ 1) : Spelled .pattern (.array items) := by
  intro c r same _
  simp only [canonical] at same ⊢
  obtain ⟨forms, trees, spells⟩ := spells_enclosed rfl each oneRest c r same
  exact ⟨.array forms false, by rw [Form.tree, trees]; rfl, .array spells⟩

theorem spelled_object (each : ∀ item ∈ items, Spelled (.item .fields) item)
    (oneRest : items.countP Pattern.isRest ≤ 1) : Spelled .pattern (.object items) := by
  intro c r same _
  simp only [canonical] at same ⊢
  obtain ⟨forms, trees, spells⟩ := spells_enclosed rfl each oneRest c r same
  exact ⟨.object forms false, by rw [Form.tree, trees]; rfl, .object spells⟩

theorem spelled_tag (isName : Token.IsName isUpper name) : Spelled .pattern (.tag name) := by
  intro c r same stops
  simp only [canonical] at same ⊢
  exact ⟨.tag name, rfl,
    .tag (name_of_buffer isName same (stops.no_start fun _ => isNamePart_of_follower))⟩

/-- A class name in front of brackets that no name goes on with. -/
theorem spelled_class {opening closing : Char} {place : Place} {p : Pattern}
    (make : List Form → Form)
    (spelling : p.canonical = name ++ bracketed opening closing (joined items))
    (notName : isNamePart opening.toNat = false) (closer : isCloser closing.toNat = true)
    (isName : Token.IsName isUpper name) (each : ∀ item ∈ items, Spelled (.item place) item)
    (oneRest : items.countP Pattern.isRest ≤ 1)
    (tree : ∀ forms, Form.trees forms = mapItemNumbers Number.normalized items →
      (make forms).tree = p.normalized)
    (rule : ∀ {c a d forms}, Name isUpper name c a →
      Spells (.enclosed opening closing place forms false) a d → Spells (.pattern (make forms)) c d) :
    Spelled .pattern p := by
  intro c r same _
  rw [spelling] at same ⊢
  rw [List.append_assoc] at same
  have behind := Cursor.Spans.buffer_advance same
  obtain ⟨forms, trees, spells⟩ := spells_enclosed closer each oneRest _ r behind
  have reached := (Cursor.Spans.of_buffer same).trans (Cursor.Spans.of_buffer behind)
  have made := rule (name_of_buffer isName same (by simpa [bracketed, Token.startsWith] using notName))
    spells
  rw [reached.2] at made
  exact ⟨make forms, tree forms trees, made⟩

theorem spelled_extractor (isName : Token.IsName isNameStart name) :
    Spelled .pattern (.extractor name) := by
  intro c r same stops
  simp only [canonical] at same ⊢
  have dollar : c.buffer = ['$'.toNat] ++ (name ++ r) := same
  have behind := Cursor.Spans.buffer_advance dollar
  have reached : _ = c.advance ('$'.toNat :: name).length :=
    ((Cursor.Spans.of_buffer dollar).trans (Cursor.Spans.of_buffer behind)).2
  refine ⟨.extractor name, rfl, ?_⟩
  rw [← reached]
  exact .extractor (Cursor.Spans.of_buffer dollar)
    (name_of_buffer isName behind (stops.no_start fun _ => isNamePart_of_follower))

theorem spelled_extractorOf (isName : Token.IsName isNameStart name)
    (spelled : Spelled .pattern inner) : Spelled .pattern (.extractorOf name inner) := by
  intro c r same _
  simp only [canonical] at same ⊢
  have dollar : c.buffer =
      ['$'.toNat] ++ (name ++ (['('.toNat] ++ (inner.canonical ++ ([')'.toNat] ++ r)))) := by
    rw [same]
    simp [bracketed]
  have named := Cursor.Spans.buffer_advance dollar
  have opens := Cursor.Spans.buffer_advance named
  have inside := Cursor.Spans.buffer_advance opens
  have closes := Cursor.Spans.buffer_advance inside
  obtain ⟨form, tree, spells⟩ := spelled _ _ inside fun b head => by
    cases head
    rfl
  have reached := ((((Cursor.Spans.of_buffer dollar).trans (Cursor.Spans.of_buffer named)).trans
    (Cursor.Spans.of_buffer opens)).trans (Cursor.Spans.of_buffer inside)).trans
    (Cursor.Spans.of_buffer closes)
  have whole : ((['$'.toNat] ++ name) ++ ['('.toNat] ++ inner.canonical) ++ [')'.toNat] =
      '$'.toNat :: (name ++ bracketed '(' ')' inner.canonical) := by simp [bracketed]
  rw [whole] at reached
  refine ⟨.extractorOf name form, by rw [Form.tree, tree]; rfl, ?_⟩
  rw [← reached.2]
  exact .extractorOf (Cursor.Spans.of_buffer dollar) (name_of_buffer isName named rfl)
    (Cursor.Spans.of_buffer opens) (Blanks.refl _) spells (Blanks.refl _)
    (Cursor.Spans.of_buffer closes)

end Patterns

/-! ## Items -/

section Items

variable {place : Place} {name : Text} {inner : Pattern}

theorem spelled_element {p : Pattern} (spelled : Spelled .pattern p) :
    Spelled (.item .sequence) p := by
  intro c r same stops
  obtain ⟨form, tree, spells⟩ := spelled c r same stops
  exact ⟨form, tree, .element spells⟩

theorem spelled_rest (spelled : Spelled .pattern inner)
    (fits : place = .fields → inner = .wildcard ∨ ∃ name, inner = .identifier name) :
    Spelled (.item place) (.rest inner) := by
  intro c r same stops
  by_cases held : inner = .wildcard
  · subst held
    simp only [canonical] at same ⊢
    exact ⟨.dots, rfl, .dots (Cursor.Spans.of_buffer same)⟩
  · rw [canonical_rest held] at same ⊢
    rw [List.append_assoc] at same
    have behind := Cursor.Spans.buffer_advance same
    obtain ⟨form, tree, spells⟩ := spelled _ _ behind stops
    have holds : place = .fields → (Form.rest form).holdsName = true := by
      intro isFields
      obtain anything | ⟨n, rfl⟩ := fits isFields
      · exact absurd anything held
      · cases form with
        | identifier => rfl
        | _ => cases tree
    have made := Spells.rest (Cursor.Spans.of_buffer same) spells holds
    rw [((Cursor.Spans.of_buffer same).trans (Cursor.Spans.of_buffer behind)).2] at made
    exact ⟨.rest form, by rw [Form.tree, tree]; rfl, made⟩

theorem spelled_key (name : Text) : Spelled (.item .fields) (.key name) := by
  intro c r same _
  simp only [canonical] at same ⊢
  exact ⟨.key name, rfl, .key (.inl (Cursor.string_quoted same))⟩

theorem spelled_keyValue (name : Text) (spelled : Spelled .pattern inner) :
    Spelled (.item .fields) (.keyValue name inner) := by
  intro c r same stops
  simp only [canonical] at same ⊢
  have quoted : c.buffer = name.quoted ++ ([':'.toNat] ++ (inner.canonical ++ r)) := by
    rw [same]
    simp
  have colon := Cursor.Spans.buffer_advance quoted
  have behind := Cursor.Spans.buffer_advance colon
  obtain ⟨form, tree, spells⟩ := spelled _ _ behind stops
  have reached := ((Cursor.Spans.of_buffer quoted).trans (Cursor.Spans.of_buffer colon)).trans
    (Cursor.Spans.of_buffer behind)
  have whole : (name.quoted ++ [':'.toNat]) ++ inner.canonical =
      name.quoted ++ ':'.toNat :: inner.canonical := by simp
  rw [whole] at reached
  have made := Spells.keyValue (.inl (Cursor.string_quoted quoted)) (Blanks.refl _)
    (Cursor.Spans.of_buffer colon) (Blanks.refl _) spells
  rw [reached.2] at made
  exact ⟨.keyValue name form, by rw [Form.tree, tree]; rfl, made⟩

end Items

/-- The canonical spelling of a readable tree derives it. -/
theorem spelled_of_readable {role : Role} {p : Pattern} (readable : Readable role p) :
    Spelled role p := by
  induction readable with
  | wildcard => exact spelled_wildcard
  | null => exact spelled_word .null rfl .null
  | undefined => exact spelled_word .undefined rfl .undefined
  | boolean value => exact spelled_word (.boolean value) rfl (.boolean value)
  | number isLiteral => exact spelled_number isLiteral
  | string value => exact spelled_string value
  | identifier isName => exact spelled_identifier isName
  | binder isName structured _ ih => exact spelled_binder isName structured ih
  | array _ oneRest ih => exact spelled_array ih oneRest
  | object _ oneRest ih => exact spelled_object ih oneRest
  | tag isName => exact spelled_tag isName
  | @tagArray name items isName _ oneRest ih =>
    exact spelled_class (.tagArray name · false) (by simp only [canonical]) rfl rfl isName
      ih oneRest (fun _ trees => by simp only [Form.tree, trees, normalized, mapNumbers]) .tagArray
  | @tagObject name items isName _ oneRest ih =>
    exact spelled_class (.tagObject name · false) (by simp only [canonical]) rfl rfl
      isName ih oneRest (fun _ trees => by simp only [Form.tree, trees, normalized, mapNumbers])
      .tagObject
  | extractor isName => exact spelled_extractor isName
  | extractorOf isName _ ih => exact spelled_extractorOf isName ih
  | element _ ih => exact spelled_element ih
  | rest _ fits ih => exact spelled_rest ih fits
  | key name => exact spelled_key name
  | keyValue name _ ih => exact spelled_keyValue name ih

/-- The canonical spelling of what is read from a text is read as its normalized tree. -/
theorem parse_canonical {text : Text} {tree : Pattern} (read : Parser.parse text = .ok tree) :
    Parser.parse tree.canonical = .ok tree.normalized := by
  obtain ⟨items, rfl, each, oneRest⟩ := readable_of_parse read
  have spelling : (Pattern.argumentList items).canonical = joined items := by simp only [canonical]
  rw [spelling]
  obtain ⟨forms, trees, spells⟩ := spells_joined
    (fun item member => spelled_of_readable (each item member)) (Cursor.start (joined items)) []
    (List.append_nil _).symm fun b head => nomatch head
  have rests : AtMostOneRest forms := by
    rw [AtMostOneRest, ← Form.countP_trees, trees, mapItemNumbers_eq, List.countP_map]
    refine le_of_eq_of_le (congrArg (List.countP · items) ?_) oneRest
    funext p
    exact isRest_mapNumbers _ p
  have done : ((Cursor.start (joined items)).advance (joined items).length).buffer = [] :=
    Cursor.Spans.buffer_advance (List.append_nil _).symm
  have parsed := parse_of_spellsText ⟨_, _, _, Blanks.refl _, spells, Blanks.refl _, done, rests⟩
  rw [parsed, trees]
  rfl

/-- Trees of texts that share a canonical spelling are the same once they are normalized. -/
theorem normalized_eq_of_canonical {text other : Text} {tree otherTree : Pattern}
    (read : Parser.parse text = .ok tree) (readOther : Parser.parse other = .ok otherTree)
    (same : tree.canonical = otherTree.canonical) : tree.normalized = otherTree.normalized := by
  have parsed := parse_canonical read
  rw [same, parse_canonical readOther] at parsed
  exact (Except.ok.inj parsed).symm

end Grammar

namespace Pattern.Parser

/-- The canonical spelling of a text. -/
def canonicalize (text : Text) : Except ParseError Text := (parse text).map canonical

/-- Reading the canonical spelling of a text gives its tree with the numbers normalized, so that
spelling is its own, and texts that share it differ at most in how they write equal numbers. -/
theorem canonical_round_trip :
    (∀ text tree, parse text = .ok tree → parse tree.canonical = .ok tree.normalized) ∧
      (∀ text spelling, canonicalize text = .ok spelling → canonicalize spelling = .ok spelling) ∧
      (∀ text other tree otherTree, parse text = .ok tree → parse other = .ok otherTree →
        tree.canonical = otherTree.canonical →
        tree.shape = otherTree.shape ∧
          tree.numbers.map Number.exact = otherTree.numbers.map Number.exact) := by
  refine ⟨fun _ _ => Grammar.parse_canonical, fun text spelling made => ?_, ?_⟩
  · unfold canonicalize at made ⊢
    cases read : parse text with
    | error e => rw [read] at made; cases made
    | ok tree =>
      rw [read] at made
      cases made
      rw [Grammar.parse_canonical read]
      exact congrArg Except.ok (normalized_canonical tree)
  · intro text other tree otherTree read readOther same
    have normal := Grammar.normalized_eq_of_canonical read readOther same
    rw [← shape_normalized tree, ← numbers_normalized tree, normal, shape_normalized,
      numbers_normalized]
    exact ⟨rfl, rfl⟩

/-- A float without a fraction comes back as an integer. -/
theorem canonical_round_trip_integral :
    ∃ tree, parse (Text.ofString "5.0") = .ok tree ∧ tree.canonical = Text.ofString "5" ∧
      parse (Text.ofString "5") = .ok (.argumentList [.number (.int 5)]) := by
  have read : (Cursor.start (Text.ofString "5.0")).number =
      .ok (some (.float (Binary.ofInt _ 5)), ⟨Text.ofString "5.0", [], 3⟩) := by decide +kernel
  have parsed := Grammar.parse_number read rfl
  have spelling : (argumentList [number (.float (Binary.ofInt _ 5))]).canonical =
      Text.ofString "5" := by decide +kernel
  have again := canonical_round_trip.1 _ _ parsed
  have integral : (Number.float (Binary.ofInt _ 5)).normalized = .int 5 := by decide +kernel
  rw [spelling, normalized, mapNumbers, mapItemNumbers, mapItemNumbers, mapNumbers, integral]
    at again
  exact ⟨_, parsed, spelling, again⟩

end Pattern.Parser

end PatternDispatch
