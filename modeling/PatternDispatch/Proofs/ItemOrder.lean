import PatternDispatch.Proofs.MappingMeaning
import PatternDispatch.Proofs.SequenceMeaning

/-!
The order of the items of a mapping. What the items say together, which is the names they declare and
whether there is a rest, they say in any order. Beside that each item matches by itself and captures
a block of its own, so their order decides only where the blocks stand.
-/

namespace PatternDispatch

namespace Pattern

/-- A node with other items in place of its own. -/
def withItems : Pattern → List Pattern → Pattern
  | object _, order => object order
  | tagObject name _, order => tagObject name order
  | p, _ => p

section Items

variable {p : Pattern} {items order : List Pattern}

theorem mappingItems?_withItems (holds : p.mappingItems? = some items) :
    (p.withItems order).mappingItems? = some order := by
  cases p with
  | object | tagObject => rfl
  | _ => cases holds

theorem Readable.withItems {role : Role} (readable : Readable role p)
    (holds : p.mappingItems? = some items) (others : ReadableItems .fields order) :
    Readable .pattern (p.withItems order) := by
  induction readable with
  | object => exact .object others.each others.oneRest
  | tagObject isName => exact .tagObject isName others.each others.oneRest
  | element _ ih => exact ih holds
  | _ => cases holds

theorem ReadableItems.of_perm {place : Grammar.Place} (readable : ReadableItems place items)
    (perm : order.Perm items) : ReadableItems place order where
  each item member := readable.each item (perm.mem_iff.mp member)
  oneRest := (perm.countP_eq Pattern.isRest).trans_le readable.oneRest

/-- A node of a readable tree stays readable in any order of its items. -/
theorem Occurs.withItems {arguments : List Pattern} (occurs : (argumentList arguments).Occurs p)
    (readable : ReadableItems .sequence arguments) (holds : p.mappingItems? = some items)
    (perm : order.Perm items) : Readable .pattern (p.withItems order) := by
  have others := (occurs.mapping readable holds).of_perm perm
  cases occurs with
  | root => cases holds
  | child member below =>
    obtain ⟨role, found⟩ := below.readable (readable.each _ member)
    exact found.withItems holds others

end Items

end Pattern

namespace Matching

/-! ## What items say together -/

section Together

variable {ctx : Context} {items order more : List Pattern} {entries left : List (Value × Value)}
  {captures : List Value}

theorem declares_perm (perm : order.Perm items) {name : Text} :
    Declares order name ↔ Declares items name := by
  unfold Declares
  simp only [perm.mem_iff]

theorem declaredKey_perm (perm : order.Perm items) {key : Value} :
    DeclaredKey order key ↔ DeclaredKey items key := by
  unfold DeclaredKey
  simp only [declares_perm perm]

theorem Leaves.of_perm (perm : order.Perm items) (leaves : Leaves items entries left) :
    Leaves order entries left := by
  induction leaves with
  | nil => exact .nil
  | declared taken _ ih => exact .declared ((declaredKey_perm perm).mpr taken) ih
  | other free _ ih => exact .other (fun taken => free ((declaredKey_perm perm).mp taken)) ih

/-- What items capture depends on the items they stand with, but not on the order of these. -/
theorem FieldsMatch.of_perm (perm : order.Perm items)
    (matched : FieldsMatch ctx items entries more captures) :
    FieldsMatch ctx order entries more captures := by
  induction matched with
  | nil => exact .nil
  | key under _ ih => exact .key under ih
  | keyValue under ran _ ih => exact .keyValue under ran ih
  | named leaves _ ih => exact .named (leaves.of_perm perm) ih
  | unnamed _ ih => exact .unnamed ih

theorem each_perm {place : Grammar.Place}
    (each : ∀ item ∈ items, Pattern.Readable (.item place) item) (perm : order.Perm items) :
    ∀ item ∈ order, Pattern.Readable (.item place) item :=
  fun item member => each item (perm.mem_iff.mp member)

theorem keysFit_perm (each : ∀ item ∈ items, Pattern.Readable (.item .fields) item)
    (perm : order.Perm items) : keysFit order entries = true ↔ keysFit items entries = true := by
  rw [keysFit_iff (each_perm each perm), keysFit_iff each]
  simp only [declares_perm perm, declaredKey_perm perm, perm.mem_iff]

end Together

/-! ## What an item says by itself -/

/-- The captures of one item, which stands with others. -/
def itemBlock (ctx : Context) (items : List Pattern) (entries : List (Value × Value))
    (item : Pattern) : List Value :=
  match (runFields ctx (declaredNames items) [item] entries).result with
  | .ok (some captures) => captures
  | _ => []

section Blocks

variable {ctx : Context} {items order more : List Pattern} {item : Pattern}
  {entries : List (Value × Value)} {v : Value} {captures own : List Value}

/-- Items match if the first does by itself and the others do. -/
theorem fieldsMatch_cons_iff :
    FieldsMatch ctx items entries (item :: more) captures ↔
      ∃ own others, FieldsMatch ctx items entries [item] own ∧
        FieldsMatch ctx items entries more others ∧ captures = own ++ others := by
  constructor
  · intro matched
    cases matched with
    | key under all => exact ⟨_, _, .key under .nil, all, rfl⟩
    | keyValue under ran all =>
      exact ⟨_, _, .keyValue under ran .nil, all, by rw [List.append_nil]⟩
    | named leaves all => exact ⟨_, _, .named leaves .nil, all, rfl⟩
    | unnamed all => exact ⟨_, _, .unnamed .nil, all, rfl⟩
  · rintro ⟨own, others, one, all, rfl⟩
    cases one with
    | key under ended =>
      cases ended
      exact .key under all
    | keyValue under ran ended =>
      cases ended
      rw [List.append_nil]
      exact .keyValue under ran all
    | named leaves ended =>
      cases ended
      exact .named leaves all
    | unnamed ended =>
      cases ended
      exact .unnamed all

theorem itemBlock_eq (each : ∀ item ∈ items, Pattern.Readable (.item .fields) item)
    (member : item ∈ items) (matched : FieldsMatch ctx items entries [item] own) :
    itemBlock ctx items entries item = own := by
  have part : ∀ other ∈ [item], Pattern.Readable (.item .fields) other :=
    List.forall_mem_singleton.mpr (each item member)
  rw [itemBlock, (runFields_iff each part).mpr matched]

/-- Items match if each does by itself, and they capture the block of each. -/
theorem fieldsMatch_iff_blocks (each : ∀ item ∈ items, Pattern.Readable (.item .fields) item)
    (part : ∀ item ∈ more, item ∈ items) :
    FieldsMatch ctx items entries more captures ↔
      (∀ item ∈ more, FieldsMatch ctx items entries [item] (itemBlock ctx items entries item)) ∧
        captures = more.flatMap (itemBlock ctx items entries) := by
  induction more generalizing captures with
  | nil =>
    constructor
    · intro matched
      cases matched
      exact ⟨List.forall_mem_nil _, rfl⟩
    · rintro ⟨-, rfl⟩
      exact .nil
  | cons item more ih =>
    obtain ⟨member, members⟩ := List.forall_mem_cons.mp part
    rw [fieldsMatch_cons_iff, List.forall_mem_cons, List.flatMap_cons]
    simp only [ih members]
    constructor
    · rintro ⟨own, others, one, ⟨all, rfl⟩, rfl⟩
      rw [itemBlock_eq each member one]
      exact ⟨⟨one, all⟩, rfl⟩
    · rintro ⟨⟨one, all⟩, rfl⟩
      exact ⟨_, _, one, ⟨all, rfl⟩, rfl⟩

/-- A block has as many captures as its item has names. -/
theorem length_of_fieldsMatch (readable : Pattern.Readable (.item .fields) item)
    (matched : FieldsMatch ctx items entries [item] own) : own.length = item.captureCount := by
  cases readable with
  | key =>
    cases matched with
    | key _ ended =>
      cases ended
      rfl
  | keyValue _ readable =>
    cases matched with
    | keyValue _ ran ended =>
      cases ended
      rw [List.append_nil, length_of_matches (readable_inOrder ctx readable) ran,
        Pattern.captureCount]
  | rest _ holds =>
    cases matched with
    | named _ ended | unnamed ended =>
      cases ended
      rfl

/-- What one order of the items matches, every other order matches with the same blocks. -/
theorem MappingMatch.blocks (each : ∀ item ∈ items, Pattern.Readable (.item .fields) item)
    (matched : MappingMatch ctx items v captures) :
    ∃ entries, v.HasEntries entries ∧
      (∀ item ∈ items, FieldsMatch ctx items entries [item] (itemBlock ctx items entries item)) ∧
      captures = items.flatMap (itemBlock ctx items entries) ∧
      ∀ order, order.Perm items →
        MappingMatch ctx order v (order.flatMap (itemBlock ctx items entries)) := by
  obtain ⟨has, present, closed, all⟩ := matched
  obtain ⟨blocks, same⟩ := (fieldsMatch_iff_blocks each fun _ member => member).mp all
  refine ⟨_, has, blocks, same, fun order perm => ?_⟩
  have reordered := (fieldsMatch_iff_blocks each fun item => perm.mem_iff.mp).mpr
    ⟨fun item member => blocks item (perm.mem_iff.mp member), rfl⟩
  apply MappingMatch.intro has _ _ (reordered.of_perm perm)
  · intro name declares
    exact present name ((declares_perm perm).mp declares)
  · intro noRest entry member
    apply (declaredKey_perm perm).mpr
    exact closed (fun item inside => noRest item (perm.mem_iff.mpr inside)) entry member

end Blocks

/-! ## Nodes -/

/-- No item of a node raises a failure on a value: where the keys fit, no pattern does on the value
under its name. -/
def NoItemRaises (ctx : Context) (p : Pattern) (items : List Pattern) (v : Value) : Prop :=
  ∀ w entries, Enters ctx v p w → w.HasEntries entries → keysFit items entries = true →
    ∀ name inner value failure, .keyValue name inner ∈ items → Value.Under name entries value →
      (run ctx inner value).result ≠ .error failure

section Nodes

variable {ctx : Context} {p : Pattern} {items order : List Pattern} {v w : Value}
  {failure : Failure}

theorem enters_withItems (holds : p.mappingItems? = some items) :
    Enters ctx v (p.withItems order) w ↔ Enters ctx v p w := by
  cases p with
  | object =>
    constructor
    all_goals
      intro entered
      cases entered
      exact .object _
  | tagObject =>
    constructor
    all_goals
      intro entered
      cases entered with
      | tagObject isInstance asked => exact .tagObject isInstance asked
  | _ => cases holds

theorem NoItemRaises.of_perm (each : ∀ item ∈ items, Pattern.Readable (.item .fields) item)
    (holds : p.mappingItems? = some items) (perm : order.Perm items)
    (calm : NoItemRaises ctx p items v) : NoItemRaises ctx (p.withItems order) order v := by
  intro w entries entered has fits name inner value failure member under
  exact calm w entries ((enters_withItems holds).mp entered) has ((keysFit_perm each perm).mp fits)
    name inner value failure (perm.mem_iff.mp member) under

/-- Where no item raises, a node fails only where a class refuses its components. -/
theorem mappingNode_error_iff (each : ∀ item ∈ items, Pattern.Readable (.item .fields) item)
    (holds : p.mappingItems? = some items) (calm : NoItemRaises ctx p items v) :
    (run ctx p v).result = .error failure ↔
      ∃ name, p = .tagObject name items ∧ ctx.typeMatches v name = true ∧
        (ctx.keyed v).result = .error failure := by
  constructor
  · intro failed
    obtain refused | ⟨w, entries, name, inner, value, entered, has, fits, member, under, raised⟩ :=
      mappingNode_raises each holds failed
    · exact refused
    · exact absurd raised (calm w entries entered has fits name inner value failure member under)
  · rintro ⟨name, rfl, isInstance, refused⟩
    rw [run, overComponents, if_pos isInstance, Traced.result_bind, refused]

/-- What a node matches with its items in one order, it matches in every other, with the blocks of
the items in their new places. -/
theorem matches_withItems (each : ∀ item ∈ items, Pattern.Readable (.item .fields) item)
    (holds : p.mappingItems? = some items) {captures : List Value}
    (matched : Matches ctx p v captures) :
    ∃ w entries, Enters ctx v p w ∧ w.HasEntries entries ∧
      (∀ item ∈ items, FieldsMatch ctx items entries [item] (itemBlock ctx items entries item)) ∧
      captures = items.flatMap (itemBlock ctx items entries) ∧
      ∀ order, order.Perm items →
        Matches ctx (p.withItems order) v (order.flatMap (itemBlock ctx items entries)) := by
  obtain ⟨w, entered, mapping⟩ := (matches_mapping_iff each holds).mp matched
  obtain ⟨entries, has, blocks, same, reordered⟩ := mapping.blocks each
  refine ⟨w, entries, entered, has, blocks, same, fun order perm => ?_⟩
  apply (matches_mapping_iff (each_perm each perm) (Pattern.mappingItems?_withItems holds)).mpr
  exact ⟨w, (enters_withItems holds).mpr entered, reordered order perm⟩

theorem exists_matches_withItems (each : ∀ item ∈ items, Pattern.Readable (.item .fields) item)
    (holds : p.mappingItems? = some items) (perm : order.Perm items) :
    (∃ captures, Matches ctx (p.withItems order) v captures) ↔
      ∃ captures, Matches ctx p v captures := by
  have eachOrdered := each_perm each perm
  constructor
  · rintro ⟨captures, matched⟩
    obtain ⟨w, entered, mapping⟩ :=
      (matches_mapping_iff eachOrdered (Pattern.mappingItems?_withItems holds)).mp matched
    obtain ⟨entries, has, blocks, same, reordered⟩ := mapping.blocks eachOrdered
    have here := (matches_mapping_iff each holds).mpr
      ⟨w, (enters_withItems holds).mp entered, reordered items perm.symm⟩
    exact ⟨_, here⟩
  · rintro ⟨captures, matched⟩
    obtain ⟨w, entries, -, -, -, -, reordered⟩ := matches_withItems each holds matched
    exact ⟨_, reordered order perm⟩

/-- Where no item raises, all orders of the items come to the same end, up to the captures. -/
theorem end_withItems (each : ∀ item ∈ items, Pattern.Readable (.item .fields) item)
    (holds : p.mappingItems? = some items) (perm : order.Perm items)
    (calm : NoItemRaises ctx p items v) :
    (run ctx (p.withItems order) v).result.map Option.isSome =
      (run ctx p v).result.map Option.isSome := by
  have eachOrdered := each_perm each perm
  have matchesIff := @exists_matches_withItems ctx p items order v each holds perm
  have errorIff (failure : Failure) :
      (run ctx (p.withItems order) v).result = .error failure ↔
        (run ctx p v).result = .error failure := by
    rw [mappingNode_error_iff each holds calm,
      mappingNode_error_iff eachOrdered (Pattern.mappingItems?_withItems holds)
        (calm.of_perm each holds perm)]
    cases p with
    | object => simp [Pattern.withItems]
    | tagObject name =>
      cases holds
      simp [Pattern.withItems]
    | _ => cases holds
  cases one : (run ctx p v).result with
  | error failure => rw [(errorIff failure).mpr one]
  | ok found =>
    cases two : (run ctx (p.withItems order) v).result with
    | error failure => cases one.symm.trans ((errorIff failure).mp two)
    | ok other =>
      cases found with
      | some captures =>
        obtain ⟨others, matched⟩ := matchesIff.mpr ⟨captures, one⟩
        cases two.symm.trans matched
        rfl
      | none =>
        cases other with
        | none => rfl
        | some others =>
          obtain ⟨captures, matched⟩ := matchesIff.mp ⟨others, two⟩
          cases one.symm.trans matched

end Nodes

end Matching

namespace Pattern.Parser

open Matching

/-- The order of object items at every node of a tree that is read from text. A node with its items
in another order compiles and matches the same values. The captures are the same blocks, one for
each item, which it captures by itself: a named rest captures the entries that no item declares,
wherever it stands. Where no item raises, the orders do not differ in how a run ends either. -/
theorem item_order_moves_blocks {text : Text} {tree : Pattern} (read : parse text = .ok tree) :
    ∀ p items, tree.Occurs p → p.mappingItems? = some items →
      (∀ order, order.Perm items → ∃ procedure,
        Procedure.ofTree (.argumentList [p.withItems order]) = .ok procedure ∧
        ∀ (ctx : Context) (arguments : List Value), procedure.run ctx arguments =
          run ctx (.argumentList [p.withItems order]) (.tuple arguments)) ∧
      ∀ (ctx : Context) (v : Value),
        (∀ order, order.Perm items →
          ((∃ captures, (run ctx (p.withItems order) v).result = .ok (some captures)) ↔
            ∃ captures, (run ctx p v).result = .ok (some captures)) ∧
          (NoItemRaises ctx p items v →
            (run ctx (p.withItems order) v).result.map Option.isSome =
              (run ctx p v).result.map Option.isSome)) ∧
        ∀ captures, (run ctx p v).result = .ok (some captures) →
          ∃ w entries, ∃ block : Pattern → List Value, Enters ctx v p w ∧ w.HasEntries entries ∧
            (∀ item ∈ items, FieldsMatch ctx items entries [item] (block item) ∧
              (block item).length = item.captureCount) ∧
            captures = items.flatMap block ∧
            (∀ order, order.Perm items →
              (run ctx (p.withItems order) v).result = .ok (some (order.flatMap block))) ∧
            ∀ name, .rest (.identifier name) ∈ items → ∃ left, Leaves items entries left ∧
              block (.rest (.identifier name)) = [.map left] := by
  intro p items occurs holds
  obtain ⟨arguments, rfl, readable⟩ := Grammar.readable_of_parse read
  have inside := occurs.mapping readable holds
  refine ⟨fun order perm => ?_, fun ctx v => ⟨fun order perm => ?_, fun captures matched => ?_⟩⟩
  · have alone : ReadableItems .sequence [p.withItems order] :=
      ⟨List.forall_mem_singleton.mpr (.element (occurs.withItems readable holds perm)),
        List.countP_le_length⟩
    exact ⟨_, Procedure.ofTree_readable alone, fun _ _ => rfl⟩
  · exact ⟨exists_matches_withItems inside.each holds perm, end_withItems inside.each holds perm⟩
  · obtain ⟨w, entries, entered, has, blocks, same, reordered⟩ :=
      matches_withItems inside.each holds matched
    refine ⟨w, entries, itemBlock ctx items entries, entered, has, fun item member => ?_, same,
      reordered, fun name member => ?_⟩
    · exact ⟨blocks item member,
        length_of_fieldsMatch (inside.each item member) (blocks item member)⟩
    · have alone := blocks _ member
      generalize itemBlock ctx items entries (.rest (.identifier name)) = block at alone
      cases alone with
      | named leaves ended =>
        cases ended
        exact ⟨_, leaves, rfl⟩

/-- A rest behind a key captures the same entries as in front of it. -/
theorem item_order_moves_blocks_rest :
    let a : Value := .str (Text.ofString "a")
    let c : Value := .str (Text.ofString "c")
    let key : Pattern := .key (Text.ofString "a")
    let rest : Pattern := .rest (.identifier (Text.ofString "r"))
    parse (Text.ofString "\x7b...r,a\x7d") = .ok (.argumentList [.object [rest, key]]) ∧
      ∀ ctx, (run ctx (.object [rest, key]) (.map [(a, .int 1), (c, .int 2)])).result =
          .ok (some [.map [(c, .int 2)], .int 1]) ∧
        (run ctx (.object [key, rest]) (.map [(a, .int 1), (c, .int 2)])).result =
          .ok (some [.int 1, .map [(c, .int 2)]]) := by
  intro a c key rest
  have read : parse (Text.ofString "\x7b...r,a\x7d") =
      .ok (.argumentList [.object [rest, key]]) := rfl
  refine ⟨read, fun ctx => ?_⟩
  have captured : (run ctx (.object [rest, key]) (.map [(a, .int 1), (c, .int 2)])).result =
      .ok (some [.map [(c, .int 2)], .int 1]) := rfl
  obtain ⟨-, nodes⟩ := item_order_moves_blocks read (.object [rest, key]) [rest, key]
    (.child (.head _) (.root _)) rfl
  obtain ⟨w, entries, block, -, -, blocks, same, reordered, -⟩ := (nodes ctx _).2 _ captured
  have joined : [.map [(c, .int 2)]] ++ [.int 1] = block rest ++ (block key ++ []) := same
  have length : (block rest).length = 1 := (blocks rest (.head _)).2
  obtain ⟨first, second⟩ := List.append_inj joined length.symm
  have swapped : (run ctx (.object [key, rest]) (.map [(a, .int 1), (c, .int 2)])).result =
      .ok (some (block key ++ (block rest ++ []))) := reordered [key, rest] (.swap _ _ _)
  rw [List.append_nil] at second
  rw [← first, ← second] at swapped
  exact ⟨captured, swapped⟩

end Pattern.Parser

end PatternDispatch
