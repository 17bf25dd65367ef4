import PatternDispatch.Chain
import PatternDispatch.Proofs.CapturePaths
import PatternDispatch.Proofs.MatchSteps
import PatternDispatch.Proofs.ReadableProcedure

/-!
Captures come in the order of their nodes. What a node contributes is said for each path by itself,
without running the nodes beside it; a match that succeeds then answers the contributions of the
nodes that capture, in preorder, so their number is known before anything is matched.
-/

namespace PatternDispatch

namespace Matching

open Pattern (Path itemCapturePaths)

/-! ## What a node contributes -/

/-- How many elements the rest of a sequence takes. -/
def restLength (items : List Pattern) (length : Nat) : Nat := length - (items.length - 1)

/-- The element that an item is matched against: items behind the rest are counted from the end. -/
def elementPlace (items : List Pattern) (length position : Nat) : Nat :=
  if hasRest (items.take position) then length - (items.length - position) else position

/-- The value that the node at a path captures, if the pattern is matched against a value. -/
def contribution (ctx : Context) : Pattern → Value → Path → Option Value
  | .identifier _, v, [] | .binder _ _, v, [] => some v
  | .binder _ inner, v, 0 :: path => contribution ctx inner v path
  | .array items, v, position :: path | .argumentList items, v, position :: path =>
    match v.elements?, items[position]? with
    | some elements, some (.rest inner) =>
      let length := restLength items elements.length
      match inner, path with
      | .identifier _, [0] => some (v.span position (position + length : Nat))
      | inner, 0 :: path =>
        -- Under a structured rest a node captures once for each element of the span.
        (((elements.drop position).take length).mapM fun e => contribution ctx inner e path).map
          Value.list
      | _, _ => none
    | some elements, some item =>
      elements[elementPlace items elements.length position]?.bind fun e =>
        contribution ctx item e path
    | _, _ => none
  | .object items, v, position :: path =>
    match v.entries?, items[position]?, path with
    | some entries, some (.key name), [] => Value.lookupText entries name
    | some entries, some (.keyValue name inner), 0 :: path =>
      (Value.lookupText entries name).bind fun e => contribution ctx inner e path
    | some entries, some (.rest (.identifier _)), [0] =>
      some (undeclared (declaredNames items) entries)
    | _, _, _ => none
  | .tagArray name items, v, 0 :: path =>
    match (ctx.positional v name).result with
    | .ok (some components) => contribution ctx (.array items) components path
    | _ => none
  | .tagObject _ items, v, 0 :: path =>
    match (ctx.keyed v).result with
    | .ok (some components) => contribution ctx (.object items) components path
    | _ => none
  | .extractorOf name inner, v, 0 :: path =>
    match (ctx.extractors.call name v).result with
    | .ok (.pass extracted) => contribution ctx inner extracted path
    | _ => none
  | _, _, _ => none

/-! ## Spans -/

/-- A match answers the contributions of its nodes in preorder. -/
def InOrder (ctx : Context) (p : Pattern) : Prop :=
  ∀ v captures, (run ctx p v).result = .ok (some captures) →
    p.capturePaths.map (contribution ctx p v) = captures.map some

section Spans

variable {ctx : Context} {inner : Pattern}

/-- One slot of the rows is what one node contributes for each element. -/
theorem column_contributions {elements : List Value} {rows : List (List Value)} {path : Path}
    {slot : Nat} (at' : inner.capturePaths[slot]? = some path)
    (matched : List.Forall₂ (fun e row =>
      inner.capturePaths.map (contribution ctx inner e) = row.map some) elements rows) :
    (elements.mapM fun e => contribution ctx inner e path) =
      some (rows.filterMap (·[slot]?)) := by
  induction matched with
  | nil => rfl
  | @cons e row elements rows same _ ih =>
    have captured := congrArg (·[slot]?) same
    simp only [List.getElem?_map, at', Option.map_some] at captured
    cases held : row[slot]? with
    | none => rw [held] at captured; cases captured
    | some value =>
      rw [held] at captured
      have contributed : contribution ctx inner e path = some value := Option.some.inj captured
      rw [List.mapM_cons, contributed, ih, List.filterMap_cons, held]
      rfl

/-- The captures under a structured rest are one list for each node that captures. -/
theorem slotLists_contributions {elements : List Value} {rows : List (List Value)}
    (ordered : InOrder ctx inner)
    (matched : List.Forall₂ (fun e row => (run ctx inner e).result = .ok (some row))
      elements rows) :
    inner.capturePaths.map (fun path =>
        (elements.mapM fun e => contribution ctx inner e path).map Value.list) =
      (slotLists inner.captureCount rows).map some := by
  have columns := matched.imp fun e row ran => ordered e row ran
  rw [← Pattern.length_capturePaths]
  apply List.ext_getElem (by simp [slotLists])
  intro slot bound _
  rw [List.length_map] at bound
  have at' : inner.capturePaths[slot]? = some inner.capturePaths[slot] :=
    List.getElem?_eq_getElem bound
  simp only [List.getElem_map, slotLists, List.getElem_range, column_contributions at' columns,
    Option.map_some]

end Spans

/-! ## Sequences -/

/-- A rest captures in the order of what it holds, and any other item in its own. -/
def ItemInOrder (ctx : Context) : Pattern → Prop
  | .rest inner => InOrder ctx inner
  | item => InOrder ctx item

theorem ItemInOrder.inOrder {ctx : Context} {item : Pattern} (ordered : ItemInOrder ctx item)
    (notRest : item.isRest = false) : InOrder ctx item := by
  cases item <;> first | exact ordered | cases notRest

section Sequences

variable {ctx : Context} {items : List Pattern} {v : Value} {elements : List Value}

theorem contribution_item {position : Nat} {item : Pattern} {path : Path}
    (found : v.elements? = some elements) (at' : items[position]? = some item)
    (notRest : item.isRest = false) :
    contribution ctx (.array items) v (position :: path) =
      elements[elementPlace items elements.length position]?.bind fun e =>
        contribution ctx item e path := by
  simp only [contribution, found, at']
  cases item <;> first | rfl | cases notRest

theorem contribution_namedRest {position : Nat} {name : Text}
    (found : v.elements? = some elements) (at' : items[position]? = some (.rest (.identifier name))) :
    contribution ctx (.array items) v [position, 0] =
      some (v.span position (position + restLength items elements.length : Nat)) := by
  simp only [contribution, found, at']

theorem contribution_rest {position : Nat} {inner : Pattern} {path : Path}
    (found : v.elements? = some elements) (at' : items[position]? = some (.rest inner))
    (structured : ∀ name, inner ≠ .identifier name) :
    contribution ctx (.array items) v (position :: 0 :: path) =
      (((elements.drop position).take (restLength items elements.length)).mapM fun e =>
        contribution ctx inner e path).map Value.list := by
  simp only [contribution, found, at']
  cases inner with
  | identifier name => exact absurd rfl (structured name)
  | _ => rfl

/-- What the rest of a sequence captures is what the nodes under it contribute. -/
theorem rest_contributions {inner : Pattern} {position : Nat} {own : List Value}
    (found : v.elements? = some elements) (here : items[position]? = some (.rest inner))
    (ordered : InOrder ctx inner)
    (ran : (restCaptured inner
      (v.span position (position + restLength items elements.length : Nat)) fun _ =>
        each (run ctx inner)
          ((elements.drop position).take (restLength items elements.length))).result =
        .ok (some own)) :
    ((Pattern.rest inner).capturePaths.map (position :: ·)).map (contribution ctx (.array items) v) =
      own.map some := by
  have structured (plain : ∀ name, inner ≠ .identifier name)
      (ran : (collected inner.captureCount (each (run ctx inner)
        ((elements.drop position).take (restLength items elements.length)))).result =
          .ok (some own)) :
      ((Pattern.rest inner).capturePaths.map (position :: ·)).map
        (contribution ctx (.array items) v) = own.map some := by
    obtain ⟨rows, answered, rfl⟩ := collected_some_iff.mp ran
    rw [← slotLists_contributions ordered (each_some_iff.mp answered)]
    simp only [Pattern.capturePaths, List.map_map]
    apply List.map_congr_left
    intro path _
    exact contribution_rest found here plain
  cases inner with
  | wildcard =>
    cases ran
    rfl
  | identifier name =>
    cases ran
    simp only [Pattern.capturePaths, List.map_cons, List.map_nil,
      contribution_namedRest found here]
  | _ => exact structured (fun _ => by simp) ran

/-- Where the items behind the first ones start. -/
theorem elementPlace_append (before after : List Pattern) (length : Nat) :
    elementPlace (before ++ after) length before.length =
      if hasRest before then length - after.length else before.length := by
  rw [elementPlace, List.take_left, List.length_append, Nat.add_sub_cancel_left]

theorem hasRest_append (before after : List Pattern) :
    hasRest (before ++ after) = (hasRest before || hasRest after) := List.any_append

theorem hasRest_cons (item : Pattern) (after : List Pattern) :
    hasRest (item :: after) = (item.isRest || hasRest after) := List.any_cons

/-- There is no rest in front of the only one. -/
theorem hasRest_before {before after : List Pattern} {inner : Pattern}
    (rests : (before ++ .rest inner :: after).countP Pattern.isRest ≤ 1) :
    hasRest before = false := by
  rw [List.countP_append, List.countP_cons_of_pos rfl] at rests
  have none : before.countP Pattern.isRest = 0 := by omega
  rw [List.countP_eq_zero] at none
  rw [hasRest, List.any_eq_false]
  exact none

/-- A sequence that fits has room for all items beside the rest. -/
theorem room_of_fits {length : Nat} (fits : lengthFits items length = true)
    (rest : hasRest items = true) : items.length ≤ length + 1 := by
  rw [lengthFits, if_pos rest] at fits
  exact of_decide_eq_true fits

/-- Where the items behind one item start. -/
theorem elementPlace_behind (before after : List Pattern) (item : Pattern) (length : Nat) :
    elementPlace (before ++ item :: after) length (before.length + 1) =
      if hasRest before || item.isRest then length - after.length else before.length + 1 := by
  have place := elementPlace_append (before ++ [item]) after length
  rw [List.append_assoc, List.singleton_append, List.length_append, List.length_singleton,
    hasRest_append, hasRest_cons] at place
  rw [place]
  simp [hasRest]

/-- The elements of the only rest start where it stands, and the next item starts behind them. -/
theorem elementPlace_rest {before after : List Pattern} {inner : Pattern} {length : Nat}
    (fits : lengthFits (before ++ .rest inner :: after) length = true)
    (rests : (before ++ .rest inner :: after).countP Pattern.isRest ≤ 1) :
    elementPlace (before ++ .rest inner :: after) length before.length = before.length ∧
      elementPlace (before ++ .rest inner :: after) length (before.length + 1) =
        before.length + restLength (before ++ .rest inner :: after) length ∧
      restLength (before ++ .rest inner :: after) length = length - before.length - after.length := by
  have isRest : (Pattern.rest inner).isRest = true := rfl
  have room := room_of_fits fits (by rw [hasRest_append, hasRest_cons, isRest, Bool.true_or,
    Bool.or_true])
  rw [List.length_append, List.length_cons] at room
  refine ⟨?_, ?_, ?_⟩
  · rw [elementPlace_append, hasRest_before rests, if_neg Bool.false_ne_true]
  · rw [elementPlace_behind, isRest, Bool.or_true, if_pos rfl, restLength, List.length_append,
      List.length_cons]
    omega
  · rw [restLength, List.length_append, List.length_cons]
    omega

/-- An item that is no rest takes one element. -/
theorem elementPlace_item {before after : List Pattern} {item : Pattern} {length : Nat}
    (fits : lengthFits (before ++ item :: after) length = true) (notRest : item.isRest = false) :
    elementPlace (before ++ item :: after) length (before.length + 1) =
      elementPlace (before ++ item :: after) length before.length + 1 := by
  rw [elementPlace_behind, elementPlace_append, notRest, Bool.or_false, List.length_cons]
  cases passed : hasRest before with
  | false => rfl
  | true =>
    have room := room_of_fits fits (by rw [hasRest_append, passed, Bool.true_or])
    rw [List.length_append, List.length_cons] at room
    have filled : before ≠ [] := fun empty => by rw [empty] at passed; cases passed
    have positive := List.length_pos_iff.mpr filled
    rw [if_pos rfl, if_pos rfl]
    omega

/-- What the items from one on capture is what the nodes under them contribute. -/
theorem runItems_contributions (before : List Pattern) {after : List Pattern} {start : Nat}
    {captures : List Value} (found : v.elements? = some elements)
    (fits : lengthFits (before ++ after) elements.length = true)
    (rests : (before ++ after).countP Pattern.isRest ≤ 1)
    (ordered : ∀ item ∈ after, ItemInOrder ctx item)
    (place : start = elementPlace (before ++ after) elements.length before.length)
    (matched : (runItems ctx after v start (elements.drop start)).result = .ok (some captures)) :
    (itemCapturePaths before.length after).map (contribution ctx (.array (before ++ after)) v) =
      captures.map some := by
  induction after generalizing before start captures with
  | nil =>
    cases matched
    rfl
  | cons item after ih =>
    have here : (before ++ item :: after)[before.length]? = some item := by simp
    have own := ordered item List.mem_cons_self
    have later {first others : List Value} {next : Nat}
        (one : (item.capturePaths.map (before.length :: ·)).map
          (contribution ctx (.array (before ++ item :: after)) v) = first.map some)
        (place : next = elementPlace (before ++ item :: after) elements.length (before.length + 1))
        (ran : (runItems ctx after v next (elements.drop next)).result = .ok (some others)) :
        (itemCapturePaths before.length (item :: after)).map
          (contribution ctx (.array (before ++ item :: after)) v) = (first ++ others).map some := by
      have moved : before ++ item :: after = (before ++ [item]) ++ after := by simp
      have length : (before ++ [item]).length = before.length + 1 := by simp
      rw [← length, moved] at place
      rw [moved] at fits rests
      have two := ih _ fits rests (fun other member => ordered other (List.mem_cons_of_mem _ member))
        place ran
      rw [← moved, length] at two
      rw [itemCapturePaths, List.map_append, List.map_append, one, two]
    cases isRest : item.isRest with
    | true =>
      obtain ⟨inner, rfl⟩ := Pattern.exists_rest isRest
      obtain ⟨stands, behind, count⟩ := elementPlace_rest fits rests
      rw [stands] at place
      subst place
      rw [runItems_rest, List.length_drop, ← count] at matched
      obtain ⟨first, others, ran, ranLater, rfl⟩ := both_some_iff.mp matched
      rw [List.drop_drop] at ranLater
      exact later (rest_contributions found here own ran) behind.symm ranLater
    | false =>
      cases there : elements.drop start with
      | nil =>
        rw [there, runItems_short isRest] at matched
        cases matched
      | cons e left =>
        rw [there, runItems_item isRest] at matched
        obtain ⟨first, others, ran, ranLater, rfl⟩ := both_some_iff.mp matched
        have element : elements[start]? = some e := by
          rw [← List.head?_drop, there, List.head?_cons]
        have rest : left = elements.drop (start + 1) := by
          rw [← List.drop_drop, there, List.drop_one, List.tail_cons]
        rw [rest] at ranLater
        refine later ?_ (by rw [elementPlace_item fits isRest, place]) ranLater
        rw [← own.inOrder isRest e first ran, List.map_map]
        apply List.map_congr_left
        intro path _
        rw [Function.comp_apply, contribution_item found here isRest, ← place, element,
          Option.bind_some]

/-- A sequence that matches captures what the nodes under its items contribute. -/
theorem elements_contributions {captures : List Value}
    (rests : items.countP Pattern.isRest ≤ 1) (ordered : ∀ item ∈ items, ItemInOrder ctx item)
    (matched : (overElements items v (runItems ctx items v 0)).result = .ok (some captures)) :
    (itemCapturePaths 0 items).map (contribution ctx (.array items) v) = captures.map some := by
  obtain ⟨elements, found, fits, ran⟩ := overElements_some_iff.mp matched
  exact runItems_contributions [] found fits rests ordered rfl ran

end Sequences

/-! ## Mappings -/

/-- An object item captures the value under its name, what a pattern captures of that value, or the
entries that are left. -/
def FieldInOrder (ctx : Context) : Pattern → Prop
  | .key _ | .rest .wildcard | .rest (.identifier _) => True
  | .keyValue _ inner => InOrder ctx inner
  | _ => False

section Mappings

variable {ctx : Context} {v : Value} {entries : List (Value × Value)} {items : List Pattern}

theorem contribution_key {position : Nat} {name : Text} (found : v.entries? = some entries)
    (here : items[position]? = some (.key name)) :
    contribution ctx (.object items) v [position] = Value.lookupText entries name := by
  rw [contribution]
  · exact found
  · exact here

theorem contribution_keyValue {position : Nat} {name : Text} {inner : Pattern} {path : Path}
    (found : v.entries? = some entries) (here : items[position]? = some (.keyValue name inner)) :
    contribution ctx (.object items) v (position :: 0 :: path) =
      (Value.lookupText entries name).bind fun e => contribution ctx inner e path := by
  rw [contribution]
  · exact found
  · exact here

theorem contribution_fieldsRest {position : Nat} {name : Text} (found : v.entries? = some entries)
    (here : items[position]? = some (.rest (.identifier name))) :
    contribution ctx (.object items) v [position, 0] =
      some (undeclared (declaredNames items) entries) := by
  unfold contribution
  rw [found, here]
  rfl

/-- What the object items from one on capture is what the nodes under them contribute. -/
theorem runFields_contributions (before : List Pattern) {after : List Pattern}
    {captures : List Value} (found : v.entries? = some entries)
    (ordered : ∀ item ∈ after, FieldInOrder ctx item)
    (matched : (runFields ctx (declaredNames (before ++ after)) after entries).result =
      .ok (some captures)) :
    (itemCapturePaths before.length after).map (contribution ctx (.object (before ++ after)) v) =
      captures.map some := by
  induction after generalizing before captures with
  | nil =>
    rw [runFields] at matched
    cases matched
    rfl
  | cons item after ih =>
    have here : (before ++ item :: after)[before.length]? = some item := by simp
    have own := ordered item List.mem_cons_self
    have later {first others : List Value}
        (one : (item.capturePaths.map (before.length :: ·)).map
          (contribution ctx (.object (before ++ item :: after)) v) = first.map some)
        (ran : (runFields ctx (declaredNames (before ++ item :: after)) after entries).result =
          .ok (some others)) :
        (itemCapturePaths before.length (item :: after)).map
          (contribution ctx (.object (before ++ item :: after)) v) = (first ++ others).map some := by
      have moved : before ++ item :: after = (before ++ [item]) ++ after := by simp
      have length : (before ++ [item]).length = before.length + 1 := by simp
      rw [moved] at ran
      have two := ih _ (fun other member => ordered other (List.mem_cons_of_mem _ member)) ran
      rw [← moved, length] at two
      rw [itemCapturePaths, List.map_append, List.map_append, one, two]
    cases item with
    | key name =>
      rw [runFields] at matched
      obtain ⟨first, others, ran, ranLater, rfl⟩ := both_some_iff.mp matched
      obtain ⟨value, looked, answered⟩ := overEntry_some_iff.mp ran
      cases answered
      refine later ?_ ranLater
      rw [Pattern.capturePaths, List.map_singleton, List.map_singleton,
        contribution_key found here, looked, List.map_singleton]
    | keyValue name inner =>
      rw [runFields] at matched
      obtain ⟨first, others, ran, ranLater, rfl⟩ := both_some_iff.mp matched
      obtain ⟨value, looked, answered⟩ := overEntry_some_iff.mp ran
      refine later ?_ ranLater
      rw [← own value first answered]
      simp only [Pattern.capturePaths, List.map_map]
      apply List.map_congr_left
      intro path _
      rw [Function.comp_apply, Function.comp_apply, contribution_keyValue found here, looked,
        Option.bind_some]
    | rest inner =>
      cases inner with
      | wildcard =>
        rw [runFields] at matched
        · exact @later [] captures rfl matched
        · intro name same; cases same
      | identifier name =>
        rw [runFields] at matched
        obtain ⟨first, others, ran, ranLater, rfl⟩ := both_some_iff.mp matched
        cases ran
        refine later ?_ ranLater
        simp only [Pattern.capturePaths, List.map_cons, List.map_nil,
          contribution_fieldsRest found here]
      | _ => exact own.elim
    | _ => exact own.elim

/-- A mapping that matches captures what the nodes under the items contribute. -/
theorem entries_contributions {captures : List Value}
    (ordered : ∀ item ∈ items, FieldInOrder ctx item)
    (matched : (overEntries items v (runFields ctx (declaredNames items) items)).result =
      .ok (some captures)) :
    (itemCapturePaths 0 items).map (contribution ctx (.object items) v) = captures.map some := by
  obtain ⟨entries, found, -, ran⟩ := overEntries_some_iff.mp matched
  exact runFields_contributions [] found ordered ran

end Mappings

/-! ## Trees -/

section Trees

variable {ctx : Context} {items : List Pattern} {v : Value}

theorem contribution_argumentList :
    contribution ctx (.argumentList items) v = contribution ctx (.array items) v := by
  funext path
  cases path <;> simp only [contribution]

/-- What the captures of a tree in some place are. -/
def RoleInOrder (ctx : Context) : Pattern.Role → Pattern → Prop
  | .pattern => InOrder ctx
  | .item .sequence => ItemInOrder ctx
  | .item .fields => FieldInOrder ctx

/-- A readable tree captures what its nodes contribute. -/
theorem readable_inOrder (ctx : Context) {role : Pattern.Role} {p : Pattern}
    (readable : Pattern.Readable role p) : RoleInOrder ctx role p := by
  induction readable with
  | wildcard => intro v captures matched; cases matched; rfl
  | null | undefined | boolean | string | tag =>
    intro v captures matched
    rw [run] at matched
    rw [test_some matched]
    rfl
  | number =>
    intro v captures matched
    rw [run] at matched
    rw [literalTest_some matched]
    rfl
  | identifier => intro v captures matched; cases matched; simp [Pattern.capturePaths, contribution]
  | @binder name inner _ _ _ ih =>
    intro v captures matched
    rw [run] at matched
    obtain ⟨own, others, first, ran, rfl⟩ := both_some_iff.mp matched
    cases first
    have below := ih v others ran
    simp only [Pattern.capturePaths, List.map_cons, List.map_map, contribution, List.cons_append,
      List.nil_append, ← below]
    rfl
  | array _ rests ih =>
    intro v captures matched
    rw [run] at matched
    exact elements_contributions rests ih matched
  | object _ _ ih =>
    intro v captures matched
    rw [run] at matched
    exact entries_contributions ih matched
  | @tagArray name items _ _ rests ih =>
    intro v captures matched
    rw [run] at matched
    obtain ⟨-, components, asked, ran⟩ := overComponents_some_iff.mp matched
    rw [← elements_contributions rests ih ran]
    simp only [Pattern.capturePaths, List.map_map]
    apply List.map_congr_left
    intro path _
    simp only [Function.comp_apply, contribution, asked]
  | @tagObject name items _ _ _ ih =>
    intro v captures matched
    rw [run] at matched
    obtain ⟨-, components, asked, ran⟩ := overComponents_some_iff.mp matched
    rw [← entries_contributions ih ran]
    simp only [Pattern.capturePaths, List.map_map]
    apply List.map_congr_left
    intro path _
    simp only [Function.comp_apply, contribution, asked]
  | extractor =>
    intro v captures matched
    rw [run] at matched
    obtain ⟨extracted, -, ran⟩ := overExtracted_some matched
    cases ran
    rfl
  | @extractorOf name inner _ _ ih =>
    intro v captures matched
    rw [run] at matched
    obtain ⟨extracted, called, ran⟩ := overExtracted_some matched
    rw [← ih extracted captures ran]
    simp only [Pattern.capturePaths, List.map_map]
    apply List.map_congr_left
    intro path _
    simp only [Function.comp_apply, contribution, called]
  | @element p readable ih =>
    cases p with
    | rest => cases readable
    | _ => exact ih
  | @rest place inner _ names ih =>
    cases place with
    | sequence => exact ih
    | fields =>
      obtain rfl | ⟨name, rfl⟩ := names rfl
      · trivial
      · trivial
  | key => trivial
  | keyValue _ _ ih => exact ih

end Trees

/-! ## Procedures -/

/-- What the nodes of a tree that capture contribute on arguments, in preorder. -/
def contributions (ctx : Context) (tree : Pattern) (arguments : List Value) :
    List (Option Value) :=
  tree.capturePaths.map (contribution ctx tree (.tuple arguments))

theorem contributions_of_run {ctx : Context} {items : List Pattern} {arguments captures : List Value}
    (readable : Pattern.ReadableItems .sequence items)
    (matched : (run ctx (.argumentList items) (.tuple arguments)).result = .ok (some captures)) :
    captures.map some = contributions ctx (.argumentList items) arguments := by
  rw [run] at matched
  have each := fun item member => readable_inOrder ctx (readable.each item member)
  rw [contributions, Pattern.capturePaths, contribution_argumentList]
  exact (elements_contributions readable.oneRest each matched).symm

end Matching

open Matching (contributions contributions_of_run)

/-- What a callback does matters only on captures that its rule can answer. -/
theorem Chain.tryFrom_congr {κ : Type} {ctx : Context} {call other : Calls κ}
    {arguments : List Value} {position : Nat} {alternatives : List (Alternative κ)}
    (agree : ∀ alternative ∈ alternatives, ∀ captures,
      (alternative.rule.run ctx arguments).result = .ok (some captures) →
      call alternative.callback captures = other alternative.callback captures) :
    tryFrom ctx call arguments position alternatives =
      tryFrom ctx other arguments position alternatives := by
  induction alternatives generalizing position with
  | nil => rw [tryFrom, tryFrom]
  | cons alternative others ih =>
    rw [tryFrom, tryFrom]
    apply Traced.bind_congr
    intro found ran
    cases found with
    | none =>
      simp only [ih fun later member => agree later (List.mem_cons_of_mem _ member)]
    | some captures => simp only [agree alternative List.mem_cons_self captures ran]

namespace Pattern.Parser

/-- A pattern that is read from text compiles to a procedure whose captures are the contributions
of the nodes that capture, in preorder, so their number does not depend on the arguments; and no
callback behind it is ever called with other captures than these. -/
theorem captures_in_preorder {text : Text} {tree : Pattern} (read : parse text = .ok tree) :
    tree.capturePaths.Pairwise (· < ·) ∧
      (∀ path, path ∈ tree.capturePaths ↔
        ∃ node, tree.at? path = some node ∧ node.isCapturing = true) ∧
      ∃ procedure, Procedure.ofTree tree = .ok procedure ∧
        procedure.arity = tree.captureCount ∧
        ∀ (ctx : Context) (arguments : List Value),
          (∀ captures, (procedure.run ctx arguments).result = .ok (some captures) →
            captures.length = tree.captureCount ∧
              captures.map some = contributions ctx tree arguments) ∧
          ∀ (κ : Type) (chain : Chain κ) (call other : Calls κ),
            (∀ alternative ∈ chain.alternatives, ∀ captures,
              (alternative.rule = .compiled procedure →
                captures.map some = contributions ctx tree arguments) →
              call alternative.callback captures = other alternative.callback captures) →
            chain.run ctx call arguments = chain.run ctx other arguments := by
  refine ⟨pairwise_capturePaths tree, mem_capturePaths tree, ?_⟩
  obtain ⟨items, rfl, readable⟩ := Grammar.readable_of_parse read
  refine ⟨_, Procedure.ofTree_readable readable, rfl, fun ctx arguments => ⟨?_, ?_⟩⟩
  · intro captures matched
    have ordered := contributions_of_run readable matched
    refine ⟨?_, ordered⟩
    rw [← length_capturePaths, ← List.length_map (f := some), ordered, contributions,
      List.length_map]
  · intro κ chain call other agree
    apply Chain.tryFrom_congr
    intro alternative member captures matched
    apply agree alternative member captures
    intro same
    rw [same] at matched
    exact contributions_of_run readable matched

/-- A name that is bound to a pattern is captured before the names in the pattern: a list of one
element is captured in front of its element. -/
theorem captures_in_preorder_binder :
    ∃ tree, parse (Text.ofString "x@[y]") = .ok tree ∧ tree.captureCount = 2 ∧
      tree.capturePaths = [[0], [0, 0, 0]] ∧
      ∃ procedure, Procedure.ofTree tree = .ok procedure ∧ procedure.arity = 2 ∧
        (∀ ctx arguments captures, (procedure.run ctx arguments).result = .ok (some captures) →
          captures.length = 2) ∧
        let ctx : Context := ⟨.empty, .empty, none⟩
        let single : Value := .list [.int 7]
        (procedure.run ctx [single]).result = .ok (some [single, .int 7]) ∧
          contributions ctx tree [single] = [some single, some (.int 7)] := by
  have read : parse (Text.ofString "x@[y]") =
      .ok (.argumentList [.binder (Text.ofString "x") (.array [.identifier (Text.ofString "y")])]) :=
    rfl
  have matched : (Matching.run ⟨.empty, .empty, none⟩
      (.argumentList [.binder (Text.ofString "x") (.array [.identifier (Text.ofString "y")])])
      (.tuple [.list [.int 7]])).result = .ok (some [.list [.int 7], .int 7]) := rfl
  obtain ⟨-, -, procedure, compiled, arity, runs⟩ := captures_in_preorder read
  rw [← Procedure.run_ofTree read compiled] at matched
  refine ⟨_, read, rfl, rfl, procedure, compiled, arity, ?_, matched, ?_⟩
  · exact fun ctx arguments captures answered => ((runs ctx arguments).1 captures answered).1
  · exact ((runs _ _).1 _ matched).2.symm

end Pattern.Parser

end PatternDispatch
