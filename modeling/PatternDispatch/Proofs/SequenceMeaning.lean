import PatternDispatch.Proofs.CaptureOrder
import PatternDispatch.Proofs.WellFormedTree

/-!
What the items of a sequence mean. The positions that a run counts from both ends are a split of the
elements into those in front of the rest, its span and those behind it; what is captured in the span
is transposed, so that each name has one list over all elements of the span.
-/

namespace PatternDispatch

/-! ## Rows and parts of arrays -/

/-- Cells that are some of others, of the same type: the `count` cells behind the first `start`. -/
inductive Cells.IsBlock (start count : Nat) : Cells → Cells → Prop where
  | int32 (cells : List Int) :
      IsBlock start count (.int32 cells) (.int32 ((cells.drop start).take count))
  | float32 (cells : List Binary32) :
      IsBlock start count (.float32 cells) (.float32 ((cells.drop start).take count))
  | truth (cells : List Bool) :
      IsBlock start count (.truth cells) (.truth ((cells.drop start).take count))

theorem Cells.isBlock_iff {start count : Nat} {cells block : Cells} :
    cells.IsBlock start count block ↔ block = cells.slice start count := by
  constructor
  · intro is
    cases is <;> rfl
  · rintro rfl
    cases cells <;> constructor

namespace NumericArray

/-- An array of some shape whose cells are those that another one has behind the first `start`. -/
structure IsCut (a : NumericArray) (start : Nat) (dims : List Nat) (part : NumericArray) :
    Prop where
  shape : part.shape = dims
  cells : a.cells.IsBlock start dims.prod part.cells

theorem IsCut.unique {a part other : NumericArray} {start : Nat} {dims : List Nat}
    (one : a.IsCut start dims part) (two : a.IsCut start dims other) : part = other := by
  have sameShape := one.shape.trans two.shape.symm
  have sameCells :=
    (Cells.isBlock_iff.mp one.cells).trans (Cells.isBlock_iff.mp two.cells).symm
  obtain ⟨shape, cells, filled⟩ := part
  obtain rfl : shape = other.shape := sameShape
  obtain rfl : cells = other.cells := sameCells
  rfl

section Rows

variable {a : NumericArray} {count : Nat} {dims : List Nat}

theorem rowSize_eq (shaped : a.shape = count :: dims) : a.rowSize = dims.prod := by
  rw [rowSize, shaped]
  rfl

theorem rowCount_eq (shaped : a.shape = count :: dims) : a.rowCount = count := by
  rw [rowCount, shaped]
  rfl

/-- A row has the shape without the first axis, and its cells stand behind those of the rows in
front. -/
theorem isCut_row (shaped : a.shape = count :: dims) (index : Fin a.rowCount) :
    a.IsCut (index * dims.prod) dims (a.row index) where
  shape := by rw [row_shape, shaped, List.tail_cons]
  cells := Cells.isBlock_iff.mpr (by rw [row_cells, rowSize_eq shaped])

/-- A part has as many rows as asked for, and its cells stand behind those of the rows in front. -/
theorem isCut_span (shaped : a.shape = count :: dims) {start length : Nat}
    (inside : start + length ≤ count) :
    a.IsCut (start * dims.prod) (length :: dims) (a.span start (start + length)) := by
  have rows : min (start + length) a.rowCount - start = length := by
    rw [rowCount_eq shaped]
    omega
  constructor
  · rw [span_shape, rows, shaped, List.tail_cons]
  · refine Cells.isBlock_iff.mpr ?_
    rw [span_cells, rows, rowSize_eq shaped, List.prod_cons]

theorem length_rows (a : NumericArray) : a.rows.length = a.rowCount := by
  rw [rows, List.length_map, List.length_finRange]

theorem getElem_rows (a : NumericArray) {index : Nat} (inside : index < a.rows.length) :
    a.rows[index] = a.row ⟨index, a.length_rows ▸ inside⟩ := by
  simp only [rows, List.getElem_map, List.getElem_finRange, Fin.cast_mk]

theorem rows_eq {found : List NumericArray} (shaped : a.shape = found.length :: dims)
    (each : ∀ index row, found[index]? = some row → a.IsCut (index * dims.prod) dims row) :
    found = a.rows := by
  apply List.ext_getElem
  · rw [length_rows, rowCount_eq shaped]
  · intro index inside bound
    have here := each index _ (List.getElem?_eq_getElem inside)
    rw [getElem_rows]
    exact here.unique (isCut_row shaped ⟨index, _⟩)

theorem isCut_rows (shaped : a.shape = count :: dims) (index : Nat) (row : NumericArray)
    (found : a.rows[index]? = some row) : a.IsCut (index * dims.prod) dims row := by
  obtain ⟨inside, rfl⟩ := List.getElem?_eq_some_iff.mp found
  rw [getElem_rows]
  exact isCut_row shaped ⟨index, _⟩

/-- A cut of a part that lies within it is a cut of the whole. -/
theorem IsCut.trans {part inner : NumericArray} {start first : Nat} {below : List Nat}
    (outer : a.IsCut start dims part) (cut : part.IsCut first below inner)
    (within : first + below.prod ≤ dims.prod) : a.IsCut (start + first) below inner := by
  have least : min below.prod (dims.prod - first) = below.prod := by omega
  refine ⟨cut.shape, Cells.isBlock_iff.mpr ?_⟩
  rw [Cells.isBlock_iff.mp cut.cells, Cells.isBlock_iff.mp outer.cells]
  cases a.cells <;>
    simp only [Cells.slice, List.drop_take, List.take_take, List.drop_drop, least]

/-- The rows of a part of an array are those of the array. -/
theorem rows_span (shaped : a.shape = count :: dims) {start length : Nat}
    (inside : start + length ≤ count) :
    (a.span start (start + length)).rows = (a.rows.drop start).take length := by
  have part := isCut_span shaped inside
  have size := (length_rows _).trans (rowCount_eq part.shape)
  have whole := (length_rows a).trans (rowCount_eq shaped)
  apply List.ext_getElem
  · rw [size, List.length_take, List.length_drop, whole]
    omega
  · intro index bound _
    have row := isCut_rows part.shape index _ (List.getElem?_eq_getElem bound)
    rw [size] at bound
    have within : index * dims.prod + dims.prod ≤ (length :: dims).prod := by
      rw [List.prod_cons, ← Nat.succ_mul]
      exact Nat.mul_le_mul_right _ bound
    have place := part.trans row within
    rw [← Nat.add_mul] at place
    have there : start + index < a.rows.length := by omega
    have own := isCut_rows shaped _ _ (List.getElem?_eq_getElem there)
    rw [List.getElem_take, List.getElem_drop]
    exact place.unique own

end Rows

end NumericArray

/-! ## Elements and slices -/

namespace Value

/-- The elements of a list, of a tuple or of an array that has rows, also of an object made over
one. The rows of an array have its shape without the first axis and share its cells in order. -/
inductive HasElements (v : Value) : List Value → Prop where
  | list {items : List Value} : v.underlying = .list items → HasElements v items
  | tuple {items : List Value} : v.underlying = .tuple items → HasElements v items
  | namedTuple {name : Text} {components : List (Text × Value)} :
      v.underlying = .namedTuple name components → HasElements v (components.map (·.2))
  | array {a : NumericArray} {dims : List Nat} {rows : List NumericArray} :
      v.underlying = .array a → a.shape = rows.length :: dims →
      (∀ index row, rows[index]? = some row → a.IsCut (index * dims.prod) dims row) →
      HasElements v (rows.map Value.array)

theorem hasElements_iff {v : Value} {elements : List Value} :
    v.HasElements elements ↔ v.elements? = some elements := by
  constructor
  · intro has
    unfold elements?
    cases has with
    | list base | tuple base | namedTuple base => rw [base]
    | @array a dims rows base shaped each =>
      have notScalar : ¬a.isScalar = true := by
        rw [NumericArray.isScalar, shaped]
        exact Bool.false_ne_true
      rw [base, NumericArray.rows_eq shaped each]
      exact if_neg notScalar
  · intro found
    unfold elements? at found
    cases base : v.underlying with
    | list items => rw [base] at found; cases found; exact .list base
    | tuple items => rw [base] at found; cases found; exact .tuple base
    | namedTuple name components => rw [base] at found; cases found; exact .namedTuple base
    | array a =>
      rw [base] at found
      dsimp only at found
      split at found
      · cases found
      · next notScalar =>
        cases found
        obtain ⟨count, dims, shaped⟩ := List.exists_cons_of_ne_nil
          fun empty => notScalar (List.isEmpty_iff.mpr empty)
        refine .array base ?_ (NumericArray.isCut_rows shaped)
        rw [NumericArray.length_rows, NumericArray.rowCount_eq shaped, shaped]
    | _ => rw [base] at found; cases found

/-- The value that stands for the elements of a sequence from a position on: of an array it is an
array again, with as many rows cut out of its cells, and of any other sequence it is a list. -/
structure IsSlice (v : Value) (start : Nat) (between : List Value) (slice : Value) : Prop where
  elements : slice.HasElements between
  ofArray : ∀ a, v.underlying = .array a → ∃ count dims part, a.shape = count :: dims ∧
    slice = .array part ∧ a.IsCut (start * dims.prod) (between.length :: dims) part
  ofOther : (∀ a, v.underlying ≠ .array a) → slice = .list between

section Slices

variable {v slice : Value} {front between back : List Value}

theorem clamp_ofNat {length position : Nat} (inside : position ≤ length) :
    clamp length (position : Nat) = position := by
  have nonneg : ¬((position : Int) < 0) := by omega
  rw [clamp, if_neg nonneg, Int.toNat_natCast, Nat.min_eq_right inside]

theorem cut_between (front between back : List Value) :
    ((front ++ (between ++ back)).take
        (clamp (front ++ (between ++ back)).length (front.length + between.length : Nat))).drop
      (clamp (front ++ (between ++ back)).length (front.length : Nat)) = between := by
  rw [clamp_ofNat (by simp only [List.length_append]; omega),
    clamp_ofNat (by simp only [List.length_append]; omega), List.drop_take, List.drop_left,
    Nat.add_sub_cancel_left, List.take_left]

/-- The part between the first and the last elements of what is no array is a list. -/
theorem span_listed (found : v.elements? = some (front ++ (between ++ back)))
    (other : ∀ cells, v.underlying ≠ .array cells) :
    v.span front.length (front.length + between.length : Nat) = .list between := by
  have kept : v.elements?.getD [] = front ++ (between ++ back) := by rw [found, Option.getD_some]
  have listed : ∀ {items : List Value}, items = front ++ (between ++ back) →
      Value.list ((items.take (clamp items.length (front.length + between.length : Nat))).drop
        (clamp items.length (front.length : Nat))) = .list between := by
    rintro items rfl
    rw [cut_between]
  unfold span
  cases base : v.underlying with
  | array cells => exact absurd base (other cells)
  | str text =>
    rw [elements?, base] at found
    cases found
  | _ => exact listed kept

/-- The part of an array between its first and its last rows is an array, and the rows of it are
those between. -/
theorem span_array {a : NumericArray} (base : v.underlying = .array a)
    (found : v.elements? = some (front ++ (between ++ back))) :
    ∃ count dims part, a.shape = count :: dims ∧
      v.span front.length (front.length + between.length : Nat) = .array part ∧
      a.IsCut (front.length * dims.prod) (between.length :: dims) part ∧
      (Value.array part).elements? = some between := by
  rw [elements?, base] at found
  dsimp only at found
  split at found
  · cases found
  next notScalar =>
  obtain ⟨count, dims, shaped⟩ := List.exists_cons_of_ne_nil
    fun empty => notScalar (List.isEmpty_iff.mpr empty)
  have rows : a.rows.map Value.array = front ++ (between ++ back) := Option.some.inj found
  have whole : count = front.length + (between.length + back.length) := by
    have length := congrArg List.length rows
    rwa [List.length_map, a.length_rows, NumericArray.rowCount_eq shaped, List.length_append,
      List.length_append] at length
  have inside : front.length + between.length ≤ count := by omega
  refine ⟨count, dims, a.span front.length (front.length + between.length), shaped, ?_,
    NumericArray.isCut_span shaped inside, ?_⟩
  · unfold span
    rw [base]
    dsimp only
    rw [NumericArray.rowCount_eq shaped, clamp_ofNat (by omega), clamp_ofNat inside]
  · have part : (a.span front.length (front.length + between.length)).rows.map Value.array =
        between := by
      rw [NumericArray.rows_span shaped inside, List.map_take, List.map_drop, rows, List.drop_left,
        List.take_left]
    exact congrArg some part

/-- The elements between the first and the last ones are a slice. -/
theorem isSlice_span (found : v.elements? = some (front ++ (between ++ back))) :
    v.IsSlice front.length between
      (v.span front.length (front.length + between.length : Nat)) := by
  refine ⟨?_, ?_, span_listed found⟩
  · by_cases isArray : ∃ a, v.underlying = .array a
    · obtain ⟨a, base⟩ := isArray
      obtain ⟨count, dims, part, -, same, -, elements⟩ := span_array base found
      rw [same]
      exact hasElements_iff.mpr elements
    · rw [span_listed found fun a base => isArray ⟨a, base⟩]
      exact .list rfl
  · intro a base
    obtain ⟨count, dims, part, shaped, same, cut, -⟩ := span_array base found
    exact ⟨count, dims, part, shaped, same, cut⟩

/-- There is only one slice of the same elements at the same place. -/
theorem IsSlice.unique {start : Nat} {other : Value} (one : v.IsSlice start between slice)
    (two : v.IsSlice start between other) : slice = other := by
  by_cases isArray : ∃ a, v.underlying = .array a
  · obtain ⟨a, base⟩ := isArray
    obtain ⟨count, dims, part, shaped, rfl, cut⟩ := one.ofArray a base
    obtain ⟨_, _, otherPart, again, rfl, otherCut⟩ := two.ofArray a base
    cases shaped.symm.trans again
    rw [cut.unique otherCut]
  · have none : ∀ a, v.underlying ≠ .array a := fun a base => isArray ⟨a, base⟩
    rw [one.ofOther none, two.ofOther none]

end Slices

end Value

namespace Matching

/-! ## The meaning of items -/

/-- Items that match as many elements one by one, with the captures of all. -/
inductive EachMatches (ctx : Context) : List Pattern → List Value → List Value → Prop where
  | nil : EachMatches ctx [] [] []
  | cons {item : Pattern} {items : List Pattern} {element : Value}
      {elements own others : List Value} : Matches ctx item element own →
      EachMatches ctx items elements others →
      EachMatches ctx (item :: items) (element :: elements) (own ++ others)

/-- Lists that hold the columns of rows: the list in a slot has what each row has in this slot. -/
structure Transposed (count : Nat) (rows : List (List Value)) (lists : List Value) : Prop where
  length : lists.length = count
  column : ∀ slot < count, ∃ column, lists[slot]? = some (.list column) ∧
    rows.map (·[slot]?) = column.map some

/-- What a rest that stands at a position takes from the elements of its span. -/
inductive RestTakes (ctx : Context) (v : Value) (start : Nat) :
    Pattern → List Value → List Value → Prop where
  | nothing (span : List Value) : RestTakes ctx v start .wildcard span []
  | slice {name : Text} {span : List Value} {slice : Value} : v.IsSlice start span slice →
      RestTakes ctx v start (.identifier name) span [slice]
  | columns {inner : Pattern} {span : List Value} {rows : List (List Value)} {lists : List Value} :
      inner ≠ .wildcard → (∀ name, inner ≠ .identifier name) →
      List.Forall₂ (Matches ctx inner) span rows → Transposed inner.captureCount rows lists →
      RestTakes ctx v start inner span lists

/-- A sequence that items match, with their captures in the order of the items. -/
inductive SequenceMatch (ctx : Context) (items : List Pattern) (v : Value) : List Value → Prop where
  | exact {elements captures : List Value} : (∀ item ∈ items, item.isRest = false) →
      v.HasElements elements → EachMatches ctx items elements captures →
      SequenceMatch ctx items v captures
  | around {head tail : List Pattern} {inner : Pattern}
      {front span back before between behind : List Value} :
      items = head ++ .rest inner :: tail → v.HasElements (front ++ (span ++ back)) →
      EachMatches ctx head front before → RestTakes ctx v front.length inner span between →
      EachMatches ctx tail back behind →
      SequenceMatch ctx items v (before ++ (between ++ behind))

/-- A pattern among the items, or in their rest, and an element that it is matched against. -/
inductive Meets : List Pattern → List Value → Pattern → Value → Prop where
  | first {item : Pattern} {items : List Pattern} {element : Value} {elements : List Value} :
      item.isRest = false → Meets (item :: items) (element :: elements) item element
  | later {item q : Pattern} {items : List Pattern} {element e : Value} {elements : List Value} :
      item.isRest = false → Meets items elements q e →
      Meets (item :: items) (element :: elements) q e
  | span {inner : Pattern} {items : List Pattern} {e : Value} {span back : List Value} :
      back.length = items.length → e ∈ span → Meets (.rest inner :: items) (span ++ back) inner e
  | behind {inner q : Pattern} {items : List Pattern} {e : Value} {span back : List Value} :
      back.length = items.length → Meets items back q e →
      Meets (.rest inner :: items) (span ++ back) q e

section Items

variable {ctx : Context} {items head tail : List Pattern} {inner : Pattern} {whole : Value}
  {start : Nat} {elements captures front span back : List Value}

theorem EachMatches.length_eq (matched : EachMatches ctx items elements captures) :
    elements.length = items.length := by
  induction matched with
  | nil => rfl
  | cons _ _ ih => rw [List.length_cons, List.length_cons, ih]

/-- A rest among items matches no element by itself. -/
theorem EachMatches.noRest (matched : EachMatches ctx items elements captures) :
    ∀ item ∈ items, item.isRest = false := by
  induction matched with
  | nil => exact fun _ member => nomatch member
  | @cons item items element elements own others one _ ih =>
    intro other member
    rcases List.mem_cons.mp member with rfl | later
    · cases other <;> first | rfl | cases one
    · exact ih other later

/-! ## Columns -/

/-- Rows that are long enough have all of a column. -/
theorem map_getElem?_eq {rows : List (List Value)} {slot : Nat}
    (long : ∀ row ∈ rows, slot < row.length) :
    rows.map (·[slot]?) = (rows.filterMap (·[slot]?)).map some := by
  induction rows with
  | nil => rfl
  | cons row rows ih =>
    have here := List.getElem?_eq_getElem (long row List.mem_cons_self)
    have others := ih fun other member => long other (List.mem_cons_of_mem row member)
    rw [List.map_cons, List.filterMap_cons, here, others, List.map_cons]

theorem filterMap_getElem?_eq {rows : List (List Value)} {slot : Nat} {column : List Value}
    (same : rows.map (·[slot]?) = column.map some) : rows.filterMap (·[slot]?) = column :=
  calc rows.filterMap (·[slot]?)
      = (rows.map (·[slot]?)).filterMap id := by rw [List.filterMap_map]; rfl
    _ = column := by rw [same, List.filterMap_map]; exact List.filterMap_some

/-- The lists that are collected from rows of the same length are their columns. -/
theorem transposed_iff {count : Nat} {rows : List (List Value)} {lists : List Value}
    (even : ∀ row ∈ rows, row.length = count) :
    Transposed count rows lists ↔ lists = slotLists count rows := by
  have slot? {slot : Nat} (bound : slot < count) :
      (slotLists count rows)[slot]? = some (.list (rows.filterMap (·[slot]?))) := by
    rw [slotLists, List.getElem?_map, List.getElem?_range bound, Option.map_some]
  have length : (slotLists count rows).length = count := by simp [slotLists]
  constructor
  · intro transposed
    apply List.ext_getElem?
    intro slot
    by_cases bound : slot < count
    · obtain ⟨column, there, same⟩ := transposed.column slot bound
      rw [there, slot? bound, filterMap_getElem?_eq same]
    · rw [List.getElem?_eq_none (by rw [transposed.length]; omega),
        List.getElem?_eq_none (by rw [length]; omega)]
  · rintro rfl
    refine ⟨length, fun slot bound => ⟨_, slot? bound, map_getElem?_eq fun row member => ?_⟩⟩
    rw [even row member]
    exact bound

/-! ## Runs over items -/

/-- The items in front take the elements in front. -/
theorem runItems_front_iff (noRest : ∀ item ∈ head, item.isRest = false)
    (length : front.length = head.length) :
    (runItems ctx (head ++ items) whole start (front ++ elements)).result = .ok (some captures) ↔
      ∃ own others, EachMatches ctx head front own ∧
        (runItems ctx items whole (start + head.length) elements).result = .ok (some others) ∧
        captures = own ++ others := by
  induction head generalizing front start captures with
  | nil =>
    obtain rfl := List.length_eq_zero_iff.mp length
    constructor
    · intro matched
      exact ⟨[], captures, .nil, matched, rfl⟩
    · rintro ⟨own, others, all, matched, rfl⟩
      cases all
      exact matched
  | cons item head ih =>
    obtain ⟨element, front, rfl⟩ := List.exists_cons_of_length_eq_add_one length
    have behind := fun other member => noRest other (List.mem_cons_of_mem item member)
    have places : start + 1 + head.length = start + (item :: head).length := by
      rw [List.length_cons]
      omega
    rw [List.cons_append, List.cons_append, runItems_item (noRest item List.mem_cons_self),
      both_some_iff]
    constructor
    · rintro ⟨own, later, one, ran, rfl⟩
      obtain ⟨first, others, all, left, rfl⟩ := (ih behind (Nat.succ.inj length)).mp ran
      rw [places] at left
      exact ⟨own ++ first, others, .cons one all, left, (List.append_assoc ..).symm⟩
    · rintro ⟨_, others, all, left, rfl⟩
      rw [← places] at left
      cases all with
      | @cons _ _ _ _ own first one all =>
        refine ⟨own, first ++ others, one, ?_, List.append_assoc ..⟩
        exact (ih behind (Nat.succ.inj length)).mpr ⟨first, others, all, left, rfl⟩

/-- Items without a rest take as many elements. -/
theorem runItems_exact_iff (noRest : ∀ item ∈ items, item.isRest = false)
    (length : elements.length = items.length) :
    (runItems ctx items whole start elements).result = .ok (some captures) ↔
      EachMatches ctx items elements captures := by
  have split := @runItems_front_iff ctx [] items whole start [] captures elements noRest length
  rw [List.append_nil, List.append_nil] at split
  rw [split]
  constructor
  · rintro ⟨own, others, all, ended, rfl⟩
    cases ended
    rw [List.append_nil]
    exact all
  · intro all
    exact ⟨captures, [], all, rfl, (List.append_nil _).symm⟩

/-- The rest takes the elements that the items behind it do not need. -/
theorem runItems_span_iff (noRest : ∀ item ∈ tail, item.isRest = false)
    (length : back.length = tail.length) :
    (runItems ctx (.rest inner :: tail) whole start (span ++ back)).result = .ok (some captures) ↔
      ∃ between behind,
        (restCaptured inner (whole.span start (start + span.length : Nat)) fun _ =>
          each (run ctx inner) span).result = .ok (some between) ∧
        EachMatches ctx tail back behind ∧ captures = between ++ behind := by
  have count : (span ++ back).length - tail.length = span.length := by
    rw [List.length_append, length, Nat.add_sub_cancel]
  rw [runItems_rest, count, List.take_left, List.drop_left, both_some_iff]
  simp only [runItems_exact_iff noRest length]

end Items

/-! ## Sequences -/

section Sequences

variable {ctx : Context} {items head tail : List Pattern} {p inner : Pattern} {v : Value}
  {elements captures front span back : List Value}

theorem length_of_matches (ordered : InOrder ctx p) (matched : Matches ctx p v captures) :
    captures.length = p.captureCount := by
  have same := congrArg List.length (ordered v captures matched)
  rw [List.length_map, List.length_map, Pattern.length_capturePaths] at same
  exact same.symm

/-- What is captured under a rest that holds a pattern are the columns over its span. -/
theorem columns_iff (ordered : InOrder ctx inner) :
    (collected inner.captureCount (each (run ctx inner) span)).result = .ok (some captures) ↔
      ∃ rows, List.Forall₂ (Matches ctx inner) span rows ∧
        Transposed inner.captureCount rows captures := by
  have even {rows : List (List Value)} (all : List.Forall₂ (Matches ctx inner) span rows) :
      ∀ row ∈ rows, row.length = inner.captureCount := by
    induction all with
    | nil => exact fun _ member => nomatch member
    | cons matched _ ih => exact List.forall_mem_cons.mpr ⟨length_of_matches ordered matched, ih⟩
  rw [collected_some_iff]
  constructor
  · rintro ⟨rows, ran, same⟩
    have all := each_some_iff.mp ran
    exact ⟨rows, all, (transposed_iff (even all)).mpr same⟩
  · rintro ⟨rows, all, columns⟩
    exact ⟨rows, each_some_iff.mpr all, (transposed_iff (even all)).mp columns⟩

theorem restTakes_iff (ordered : InOrder ctx inner)
    (found : v.elements? = some (front ++ (span ++ back))) :
    (restCaptured inner (v.span front.length (front.length + span.length : Nat)) fun _ =>
        each (run ctx inner) span).result = .ok (some captures) ↔
      RestTakes ctx v front.length inner span captures := by
  by_cases wild : inner = .wildcard
  · subst wild
    constructor
    · intro matched
      cases matched
      exact .nothing span
    · intro takes
      cases takes with
      | nothing => rfl
      | columns filled => exact absurd rfl filled
  by_cases named : ∃ name, inner = .identifier name
  · obtain ⟨name, rfl⟩ := named
    have slice := Value.isSlice_span found
    constructor
    · intro matched
      cases matched
      exact .slice slice
    · intro takes
      cases takes with
      | slice other => rw [other.unique slice]; rfl
      | columns _ unnamed => exact absurd rfl (unnamed name)
  have unnamed : ∀ name, inner ≠ .identifier name := fun name same => named ⟨name, same⟩
  rw [restCaptured_structured wild unnamed, columns_iff ordered]
  constructor
  · rintro ⟨rows, all, columns⟩
    exact .columns wild unnamed all columns
  · intro takes
    cases takes with
    | nothing => exact absurd rfl wild
    | @slice name => exact absurd rfl (unnamed name)
    | columns _ _ all columns => exact ⟨_, all, columns⟩

theorem hasRest_eq_false_iff :
    hasRest items = false ↔ ∀ item ∈ items, item.isRest = false := by
  rw [hasRest, List.any_eq_false]
  simp

theorem lengthFits_exact (noRest : ∀ item ∈ items, item.isRest = false) (length : Nat) :
    lengthFits items length = true ↔ length = items.length := by
  rw [lengthFits, hasRest_eq_false_iff.mpr noRest, if_neg Bool.false_ne_true, beq_iff_eq]

theorem lengthFits_around (length : Nat) :
    lengthFits (head ++ .rest inner :: tail) length = true ↔
      head.length + tail.length ≤ length := by
  have rest : hasRest (head ++ .rest inner :: tail) = true := by
    rw [hasRest_append, hasRest_cons, Pattern.isRest, Bool.true_or, Bool.or_true]
  rw [lengthFits, if_pos rest, decide_eq_true_iff, List.length_append, List.length_cons]
  omega

/-- The only rest has no other in front of it or behind it. -/
theorem exists_around (rest : hasRest items = true) (rests : items.countP Pattern.isRest ≤ 1) :
    ∃ head inner tail, items = head ++ .rest inner :: tail ∧
      (∀ item ∈ head, item.isRest = false) ∧ ∀ item ∈ tail, item.isRest = false := by
  obtain ⟨item, member, isRest⟩ := List.any_eq_true.mp rest
  obtain ⟨inner, rfl⟩ := Pattern.exists_rest isRest
  obtain ⟨head, tail, rfl⟩ := List.append_of_mem member
  rw [List.countP_append, List.countP_cons_of_pos rfl] at rests
  have before : head.countP Pattern.isRest = 0 := by omega
  have behind : tail.countP Pattern.isRest = 0 := by omega
  rw [List.countP_eq_zero] at before behind
  exact ⟨head, inner, tail, rfl, by simpa using before, by simpa using behind⟩

/-- A sequence with room for the items around the rest is the elements of those in front, the span
and the elements of those behind. -/
theorem exists_split (room : head.length + tail.length ≤ elements.length) :
    ∃ front span back, elements = front ++ (span ++ back) ∧ front.length = head.length ∧
      back.length = tail.length := by
  refine ⟨elements.take head.length,
    (elements.drop head.length).take (elements.length - tail.length - head.length),
    (elements.drop head.length).drop (elements.length - tail.length - head.length), ?_, ?_, ?_⟩
  · rw [List.take_append_drop, List.take_append_drop]
  · rw [List.length_take]
    omega
  · rw [List.length_drop, List.length_drop]
    omega

/-- Elements around a span match exactly if the items around the rest do and the rest takes the
span. -/
theorem around_iff (ordered : InOrder ctx inner) (before : ∀ item ∈ head, item.isRest = false)
    (behind : ∀ item ∈ tail, item.isRest = false)
    (found : v.elements? = some (front ++ (span ++ back))) (first : front.length = head.length)
    (last : back.length = tail.length) :
    (runItems ctx (head ++ .rest inner :: tail) v 0 (front ++ (span ++ back))).result =
        .ok (some captures) ↔
      ∃ own between others, EachMatches ctx head front own ∧
        RestTakes ctx v front.length inner span between ∧ EachMatches ctx tail back others ∧
        captures = own ++ (between ++ others) := by
  rw [runItems_front_iff before first, Nat.zero_add, ← first]
  constructor
  · rintro ⟨own, _, all, ran, rfl⟩
    obtain ⟨between, others, taken, more, rfl⟩ := (runItems_span_iff behind last).mp ran
    exact ⟨own, between, others, all, (restTakes_iff ordered found).mp taken, more, rfl⟩
  · rintro ⟨own, between, others, all, taken, more, rfl⟩
    refine ⟨own, _, all, (runItems_span_iff behind last).mpr ?_, rfl⟩
    exact ⟨between, others, (restTakes_iff ordered found).mpr taken, more, rfl⟩

/-- A value is matched exactly if it is a sequence that the items match. -/
theorem sequence_iff (readable : Pattern.ReadableItems .sequence items) :
    (overElements items v (runItems ctx items v 0)).result = .ok (some captures) ↔
      SequenceMatch ctx items v captures := by
  have ordered {head tail : List Pattern} {inner : Pattern}
      (split : items = head ++ .rest inner :: tail) : InOrder ctx inner := by
    have member : Pattern.rest inner ∈ items := by simp [split]
    exact readable_inOrder ctx (readable.each _ member)
  rw [overElements_some_iff]
  constructor
  · rintro ⟨elements, found, fits, ran⟩
    cases rest : hasRest items with
    | false =>
      have noRest := hasRest_eq_false_iff.mp rest
      have length := (lengthFits_exact noRest _).mp fits
      have all := (runItems_exact_iff noRest length).mp ran
      exact .exact noRest (Value.hasElements_iff.mpr found) all
    | true =>
      obtain ⟨head, inner, tail, split, before, behind⟩ := exists_around rest readable.oneRest
      rw [split] at fits ran
      obtain ⟨front, span, back, rfl, first, last⟩ := exists_split ((lengthFits_around _).mp fits)
      obtain ⟨own, between, others, all, taken, more, rfl⟩ :=
        (around_iff (ordered split) before behind found first last).mp ran
      exact .around split (Value.hasElements_iff.mpr found) all taken more
  · intro matched
    cases matched with
    | exact noRest has all =>
      exact ⟨_, Value.hasElements_iff.mp has, (lengthFits_exact noRest _).mpr all.length_eq,
        (runItems_exact_iff noRest all.length_eq).mpr all⟩
    | @around head tail inner front span back own between others split has all taken more =>
      have found := Value.hasElements_iff.mp has
      subst split
      refine ⟨_, found, (lengthFits_around _).mpr ?_, ?_⟩
      · rw [List.length_append, List.length_append, all.length_eq, more.length_eq]
        omega
      · exact (around_iff (ordered rfl) all.noRest more.noRest found all.length_eq
          more.length_eq).mpr ⟨own, between, others, all, taken, more, rfl⟩

end Sequences

/-! ## Failures -/

section Failures

variable {ctx : Context} {items : List Pattern} {inner : Pattern} {whole : Value} {start : Nat}
  {elements : List Value} {failure : Failure}

theorem lengthFits_cons {item : Pattern} (notRest : item.isRest = false) (length : Nat) :
    lengthFits (item :: items) (length + 1) = lengthFits items length := by
  rw [lengthFits, lengthFits, hasRest_cons, notRest, Bool.false_or, List.length_cons]
  simp

/-- Items fail only where one of them does on an element that it meets. -/
theorem runItems_error (fits : lengthFits items elements.length = true)
    (rests : items.countP Pattern.isRest ≤ 1)
    (failed : (runItems ctx items whole start elements).result = .error failure) :
    ∃ q e, Meets items elements q e ∧ (run ctx q e).result = .error failure := by
  induction items generalizing start elements with
  | nil => cases failed
  | cons item items ih =>
    cases isRest : item.isRest with
    | true =>
      obtain ⟨inner, rfl⟩ := Pattern.exists_rest isRest
      rw [List.countP_cons_of_pos rfl] at rests
      have none : items.countP Pattern.isRest = 0 := by omega
      have noRest : ∀ item ∈ items, item.isRest = false := by
        simpa using List.countP_eq_zero.mp none
      have room := (@lengthFits_around [] items inner elements.length).mp fits
      obtain ⟨front, span, back, rfl, first, last⟩ := exists_split room
      obtain rfl := List.length_eq_zero_iff.mp first
      have count : (span ++ back).length - items.length = span.length := by
        rw [List.length_append, last, Nat.add_sub_cancel]
      rw [List.nil_append] at failed ⊢
      -- With no other rest behind it, the span is what the items behind it leave.
      rw [runItems_rest, count, List.take_left, List.drop_left] at failed
      rcases both_error failed with here | behind
      · obtain ⟨e, member, raised⟩ := restCaptured_error here
        exact ⟨inner, e, .span last member, raised⟩
      · obtain ⟨q, e, meets, raised⟩ :=
          ih ((lengthFits_exact noRest _).mpr last) (by omega) behind
        exact ⟨q, e, .behind last meets, raised⟩
    | false =>
      cases elements with
      | nil =>
        rw [runItems_short isRest] at failed
        cases failed
      | cons element elements =>
        rw [runItems_item isRest] at failed
        rw [List.length_cons, lengthFits_cons isRest] at fits
        rw [List.countP_cons_of_neg (by rw [isRest]; exact Bool.false_ne_true)] at rests
        rcases both_error failed with here | behind
        · exact ⟨item, element, .first isRest, here⟩
        · obtain ⟨q, e, meets, raised⟩ := ih fits rests behind
          exact ⟨q, e, .later isRest meets, raised⟩

/-- A sequence fails only where an item does on an element that it meets. -/
theorem sequence_error {v : Value} (rests : items.countP Pattern.isRest ≤ 1)
    (failed : (overElements items v (runItems ctx items v 0)).result = .error failure) :
    ∃ elements q e, v.HasElements elements ∧ Meets items elements q e ∧
      (run ctx q e).result = .error failure := by
  unfold overElements at failed
  split at failed
  · cases failed
  · next elements found =>
    split at failed
    · next fits =>
      obtain ⟨q, e, meets, raised⟩ := runItems_error fits rests failed
      exact ⟨elements, q, e, Value.hasElements_iff.mpr found, meets, raised⟩
    · cases failed

end Failures

/-! ## Nodes -/

/-- The value in whose elements a node with items looks, if it comes to them. -/
inductive Opens (ctx : Context) (v : Value) : Pattern → Value → Prop where
  | array (items : List Pattern) : Opens ctx v (.array items) v
  | argumentList (items : List Pattern) : Opens ctx v (.argumentList items) v
  | tagArray {name : Text} {items : List Pattern} {components : Value} :
      ctx.typeMatches v name = true → (ctx.positional v name).result = .ok (some components) →
      Opens ctx v (.tagArray name items) components

end Matching

namespace Pattern

/-- The items that a node matches against the elements of a sequence. -/
def sequenceItems? : Pattern → Option (List Pattern)
  | array items | argumentList items | tagArray _ items => some items
  | _ => none

theorem Readable.sequence {role : Role} {p : Pattern} {items : List Pattern}
    (readable : Readable role p) (holds : p.sequenceItems? = some items) :
    ReadableItems .sequence items := by
  induction readable with
  | array each rests | tagArray _ each rests =>
    cases holds
    exact ⟨each, rests⟩
  | element _ ih => exact ih holds
  | _ => cases holds

/-- The items of every node of a readable tree are readable. -/
theorem Occurs.sequence {arguments items : List Pattern} {p : Pattern}
    (occurs : (argumentList arguments).Occurs p) (readable : ReadableItems .sequence arguments)
    (holds : p.sequenceItems? = some items) : ReadableItems .sequence items := by
  cases occurs with
  | root =>
    cases holds
    exact readable
  | child member below =>
    obtain ⟨role, found⟩ := below.readable (readable.each _ member)
    exact found.sequence holds

end Pattern

namespace Matching

section Nodes

variable {ctx : Context} {p : Pattern} {items : List Pattern} {v : Value}

/-- A node with readable items matches exactly the sequences that the items match. -/
theorem matches_sequence_iff (readable : Pattern.ReadableItems .sequence items)
    (holds : p.sequenceItems? = some items) {captures : List Value} :
    Matches ctx p v captures ↔ ∃ w, Opens ctx v p w ∧ SequenceMatch ctx items w captures := by
  unfold Matches
  cases p with
  | array | argumentList =>
    cases holds
    rw [run, sequence_iff readable]
    constructor
    · intro matched
      exact ⟨v, by constructor, matched⟩
    · rintro ⟨w, opens, matched⟩
      cases opens
      exact matched
  | tagArray name =>
    cases holds
    rw [run, overComponents_some_iff]
    simp only [sequence_iff readable]
    constructor
    · rintro ⟨isInstance, w, asked, matched⟩
      exact ⟨w, .tagArray isInstance asked, matched⟩
    · rintro ⟨w, opens, matched⟩
      cases opens with
      | tagArray isInstance asked => exact ⟨isInstance, w, asked, matched⟩
  | _ => cases holds

/-- A node with items fails only where one of them does on an element that it meets, or where the
components of a class are asked for. -/
theorem sequenceNode_error (rests : items.countP Pattern.isRest ≤ 1)
    (holds : p.sequenceItems? = some items) {failure : Failure}
    (failed : (run ctx p v).result = .error failure) :
    (∃ name, p = .tagArray name items ∧ ctx.typeMatches v name = true ∧
        (ctx.positional v name).result = .error failure) ∨
      ∃ w elements q e, Opens ctx v p w ∧ w.HasElements elements ∧ Meets items elements q e ∧
        (run ctx q e).result = .error failure := by
  cases p with
  | array | argumentList =>
    cases holds
    rw [run] at failed
    obtain ⟨elements, q, e, has, meets, raised⟩ := sequence_error rests failed
    exact .inr ⟨v, elements, q, e, by constructor, has, meets, raised⟩
  | tagArray name =>
    cases holds
    rw [run] at failed
    obtain ⟨isInstance, raised | ⟨w, asked, failed⟩⟩ := overComponents_error failed
    · exact .inl ⟨name, rfl, isInstance, raised⟩
    · obtain ⟨elements, q, e, has, meets, raised⟩ := sequence_error rests failed
      exact .inr ⟨w, elements, q, e, .tagArray isInstance asked, has, meets, raised⟩
  | _ => cases holds

end Nodes

end Matching

namespace Pattern.Parser

open Matching

/-- The meaning of items in a sequence, at every node of a tree that is read from text. A value is
matched exactly if its elements, or those of its components under a class name, are as many as the
items and each is matched, or if there is a rest and they split into those in front of its span, the
span and those behind it. The captures are joined in the order of the items; a rest adds nothing,
the slice of its span, or the columns of what its pattern captures there. A run fails only where an
item fails on an element that it meets, or a class refuses its components. -/
theorem sequence_match_iff {text : Text} {tree : Pattern} (read : parse text = .ok tree) :
    (∃ procedure, Procedure.ofText text = .ok procedure ∧
      ∀ (ctx : Context) (arguments : List Value),
        procedure.run ctx arguments = run ctx tree (.tuple arguments)) ∧
    ∀ p items, tree.Occurs p → p.sequenceItems? = some items →
      items.countP isRest ≤ 1 ∧
      ∀ (ctx : Context) (v : Value),
        (∀ captures, (run ctx p v).result = .ok (some captures) ↔
          ∃ w, Opens ctx v p w ∧ SequenceMatch ctx items w captures) ∧
        ∀ failure, (run ctx p v).result = .error failure →
          (∃ name, p = .tagArray name items ∧ ctx.typeMatches v name = true ∧
              (ctx.positional v name).result = .error failure) ∨
            ∃ w elements q e, Opens ctx v p w ∧ w.HasElements elements ∧
              Meets items elements q e ∧ (run ctx q e).result = .error failure := by
  constructor
  · obtain ⟨procedure, ofText, compiles⟩ := Procedure.exists_ofText read
    exact ⟨procedure, ofText, Procedure.run_ofTree read compiles⟩
  · intro p items occurs holds
    obtain ⟨arguments, rfl, readable⟩ := Grammar.readable_of_parse read
    have inside := occurs.sequence readable holds
    exact ⟨inside.oneRest, fun ctx v => ⟨fun captures => matches_sequence_iff inside holds,
      fun failure failed => sequenceNode_error inside.oneRest holds failed⟩⟩

/-- A rest inside a rest has one slice for each element of the outer span, behind what stands in
front of it there. That of an array with two rows of two cells is an array with the last row. -/
theorem sequence_match_iff_nested :
    let listed : Value := .list [.int 1, .int 2]
    let table : Value := .array ⟨[2, 2], .int32 [3, 4, 5, 6], rfl⟩
    let last : Value := .array ⟨[1, 2], .int32 [5, 6], rfl⟩
    ∃ procedure, Procedure.ofText (Text.ofString "...[_,...a]") = .ok procedure ∧
      ∀ ctx, (procedure.run ctx [listed, .tuple [.null], table]).result =
        .ok (some [.list [.list [.int 2], .list [], last]]) := by
  intro listed table last
  let named : Pattern := .array [.wildcard, .rest (.identifier (Text.ofString "a"))]
  have read : parse (Text.ofString "...[_,...a]") = .ok (.argumentList [.rest named]) := rfl
  obtain ⟨⟨procedure, ofText, runs⟩, nodes⟩ := sequence_match_iff read
  have outer := (nodes (.argumentList [.rest named]) _ (.root _) rfl).2
  have inner := (nodes named _ (.child (.head _) (.child (.head _) (.root _))) rfl).2
  have behind {v first slice : Value} {elements : List Value} (ctx : Context)
      (has : v.HasElements (first :: elements)) (slices : v.IsSlice 1 elements slice) :
      Matches ctx named v [slice] := by
    refine ((inner ctx v).1 _).mpr ⟨v, .array _, ?_⟩
    have around : v.HasElements ([first] ++ (elements ++ [])) := by
      rw [List.append_nil]
      exact has
    have skipped : Matches ctx .wildcard first [] := rfl
    exact .around rfl around (.cons skipped .nil) (.slice slices) .nil
  refine ⟨procedure, ofText, fun ctx => ?_⟩
  have rows : List.Forall₂ (Matches ctx named) [listed, .tuple [.null], table]
      [[.list [.int 2]], [.list []], [last]] := by
    refine .cons ?_ (.cons ?_ (.cons ?_ .nil))
    · exact behind ctx (.list rfl) ⟨.list rfl, nofun, fun _ => rfl⟩
    · exact behind ctx (.tuple rfl) ⟨.list rfl, nofun, fun _ => rfl⟩
    · refine behind ctx (Value.hasElements_iff.mpr rfl) ⟨Value.hasElements_iff.mpr rfl, ?_, ?_⟩
      · rintro a ⟨⟩
        exact ⟨2, [2], _, rfl, rfl, rfl, .int32 [3, 4, 5, 6]⟩
      · exact fun other => absurd rfl (other _)
  have columns : Transposed 1 [[.list [.int 2]], [.list []], [last]]
      [.list [.list [.int 2], .list [], last]] :=
    (transposed_iff (by simp)).mpr rfl
  have taken : RestTakes ctx (.tuple [listed, .tuple [.null], table]) 0 named
      [listed, .tuple [.null], table] [.list [.list [.int 2], .list [], last]] :=
    .columns nofun nofun rows columns
  have around : Value.HasElements (.tuple [listed, .tuple [.null], table])
      ([] ++ ([listed, .tuple [.null], table] ++ [])) := .tuple rfl
  rw [runs]
  refine ((outer ctx _).1 _).mpr ⟨_, .argumentList _, ?_⟩
  exact .around (List.nil_append _).symm around .nil taken .nil

end Pattern.Parser

end PatternDispatch
