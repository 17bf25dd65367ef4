import Mathlib.Data.List.Lex
import PatternDispatch.Pattern

/-!
Where the captures of a pattern come from. A node is named by the positions that lead to it from
the root; the nodes that capture are listed in preorder, which is the lexicographic order of their
paths.
-/

namespace PatternDispatch.Pattern

/-- Positions among children, from the root on. -/
abbrev Path := List Nat

/-- A node that adds a capture of its own. -/
def isCapturing : Pattern → Bool
  | identifier _ | key _ | binder _ _ => true
  | _ => false

/-- The node at a path. -/
def at? : Pattern → Path → Option Pattern
  | p, [] => some p
  | p, position :: path => p.children[position]?.bind (at? · path)

mutual

/-- The paths of the nodes that capture, in preorder. -/
def capturePaths : Pattern → List Path
  | identifier _ | key _ => [[]]
  | binder _ inner => [] :: inner.capturePaths.map (0 :: ·)
  | rest inner | keyValue _ inner | extractorOf _ inner => inner.capturePaths.map (0 :: ·)
  | array items | object items | argumentList items => itemCapturePaths 0 items
  | tagArray _ items | tagObject _ items => (itemCapturePaths 0 items).map (0 :: ·)
  | _ => []

/-- The paths below the children from a position on. -/
def itemCapturePaths (position : Nat) : List Pattern → List Path
  | [] => []
  | item :: items =>
    item.capturePaths.map (position :: ·) ++ itemCapturePaths (position + 1) items

end

mutual

/-- Each node that captures adds one to the count. -/
theorem length_capturePaths (p : Pattern) : p.capturePaths.length = p.captureCount := by
  cases p with
  | binder name inner =>
    simp only [capturePaths, captureCount, List.length_cons, List.length_map,
      length_capturePaths inner]
    omega
  | rest inner | keyValue name inner | extractorOf name inner =>
    simp only [capturePaths, captureCount, List.length_map, length_capturePaths inner]
  | array items | object items | argumentList items =>
    simp only [capturePaths, captureCount, length_itemCapturePaths 0 items]
  | tagArray name items | tagObject name items =>
    simp only [capturePaths, captureCount, List.length_map, length_itemCapturePaths 0 items]
  | _ => simp only [capturePaths, captureCount, List.length_cons, List.length_nil]

theorem length_itemCapturePaths (position : Nat) (items : List Pattern) :
    (itemCapturePaths position items).length = itemCaptureCount items := by
  match items with
  | [] => rfl
  | item :: items =>
    simp only [itemCapturePaths, itemCaptureCount, List.length_append, List.length_map,
      length_capturePaths item, length_itemCapturePaths (position + 1) items]

end

theorem mem_map_cons {paths : List Path} {position : Nat} {path : Path} :
    path ∈ paths.map (position :: ·) ↔ ∃ below ∈ paths, path = position :: below := by
  simp only [List.mem_map, eq_comm]

/-- A path below one of several children, and the child it leads into. -/
theorem mem_itemCapturePaths {position : Nat} {items : List Pattern} {path : Path} :
    path ∈ itemCapturePaths position items ↔
      ∃ i item below, items[i]? = some item ∧ path = (position + i) :: below ∧
        below ∈ item.capturePaths := by
  induction items generalizing position with
  | nil => simp [itemCapturePaths]
  | cons item items ih =>
    rw [itemCapturePaths, List.mem_append, mem_map_cons, ih]
    constructor
    · rintro (⟨below, member, rfl⟩ | ⟨i, found, below, at', rfl, member⟩)
      · exact ⟨0, item, below, rfl, rfl, member⟩
      · exact ⟨i + 1, found, below, at', by rw [Nat.add_right_comm, Nat.add_assoc], member⟩
    · rintro ⟨i, found, below, at', rfl, member⟩
      cases i with
      | zero =>
        obtain rfl := Option.some.inj at'
        exact .inl ⟨below, member, rfl⟩
      | succ i => exact .inr ⟨i, found, below, at', by rw [Nat.add_right_comm, Nat.add_assoc], member⟩

theorem nil_mem_capturePaths (p : Pattern) : [] ∈ p.capturePaths ↔ p.isCapturing = true := by
  have below (position : Nat) (paths : List Path) : [] ∉ paths.map (position :: ·) := by simp
  have among (items : List Pattern) : [] ∉ itemCapturePaths 0 items := fun member => by
    obtain ⟨_, _, _, -, wrong, -⟩ := mem_itemCapturePaths.mp member
    cases wrong
  cases p <;> simp [capturePaths, isCapturing, among]

/-- A path that leads on leads into a child. -/
theorem cons_mem_capturePaths (p : Pattern) (position : Nat) (path : Path) :
    position :: path ∈ p.capturePaths ↔
      ∃ child, p.children[position]? = some child ∧ path ∈ child.capturePaths := by
  have single (child : Pattern) : position :: path ∈ child.capturePaths.map (0 :: ·) ↔
      ∃ found, [child][position]? = some found ∧ path ∈ found.capturePaths := by
    rw [mem_map_cons]
    constructor
    · rintro ⟨below, member, same⟩
      cases same
      exact ⟨child, rfl, member⟩
    · rintro ⟨found, at', member⟩
      cases position with
      | zero => cases at'; exact ⟨path, member, rfl⟩
      | succ position => cases at'
  have several (items : List Pattern) : position :: path ∈ itemCapturePaths 0 items ↔
      ∃ found, items[position]? = some found ∧ path ∈ found.capturePaths := by
    rw [mem_itemCapturePaths]
    constructor
    · rintro ⟨i, item, below, at', same, member⟩
      obtain ⟨rfl, rfl⟩ := List.cons.inj same
      rw [Nat.zero_add]
      exact ⟨item, at', member⟩
    · rintro ⟨found, at', member⟩
      exact ⟨position, found, path, at', by rw [Nat.zero_add], member⟩
  have none : ¬∃ found : Pattern, ([] : List Pattern)[position]? = some found ∧
      path ∈ found.capturePaths := by simp
  cases p with
  | binder name inner =>
    simp only [capturePaths, children, List.mem_cons, reduceCtorEq, false_or]
    exact single inner
  | rest inner | keyValue name inner | extractorOf name inner =>
    simp only [capturePaths, children]
    exact single inner
  | array items | object items | argumentList items =>
    simp only [capturePaths, children]
    exact several items
  | tagArray name items =>
    have inner := single (array items)
    simp only [capturePaths, children] at inner ⊢
    exact inner
  | tagObject name items =>
    have inner := single (object items)
    simp only [capturePaths, children] at inner ⊢
    exact inner
  | _ => simp [capturePaths, children]

/-- The listed paths are those at which a node captures. -/
theorem mem_capturePaths (p : Pattern) (path : Path) :
    path ∈ p.capturePaths ↔ ∃ node, p.at? path = some node ∧ node.isCapturing = true := by
  induction path generalizing p with
  | nil => simp [nil_mem_capturePaths, at?]
  | cons position path ih =>
    simp only [cons_mem_capturePaths, at?, Option.bind_eq_some_iff, ih]
    constructor
    · rintro ⟨child, at', node, leads, captures⟩
      exact ⟨node, ⟨child, at', leads⟩, captures⟩
    · rintro ⟨node, ⟨child, at', leads⟩, captures⟩
      exact ⟨child, at', node, leads, captures⟩

theorem pairwise_map_cons {paths : List Path} (position : Nat) (sorted : paths.Pairwise (· < ·)) :
    (paths.map (position :: ·)).Pairwise (· < ·) := by
  rw [List.pairwise_map]
  exact sorted.imp fun before => List.cons_lt_cons_iff.mpr (.inr ⟨rfl, before⟩)

mutual

/-- The paths are listed in preorder: a node before what is below it, and children in order. -/
theorem pairwise_capturePaths (p : Pattern) : p.capturePaths.Pairwise (· < ·) := by
  cases p with
  | binder name inner =>
    simp only [capturePaths, List.pairwise_cons]
    refine ⟨fun path member => ?_, pairwise_map_cons 0 (pairwise_capturePaths inner)⟩
    obtain ⟨below, -, rfl⟩ := mem_map_cons.mp member
    exact List.nil_lt_cons 0 below
  | rest inner | keyValue name inner | extractorOf name inner =>
    exact pairwise_map_cons 0 (pairwise_capturePaths inner)
  | array items | object items | argumentList items => exact pairwise_itemCapturePaths 0 items
  | tagArray name items | tagObject name items =>
    exact pairwise_map_cons 0 (pairwise_itemCapturePaths 0 items)
  | _ => simp [capturePaths]

theorem pairwise_itemCapturePaths (position : Nat) (items : List Pattern) :
    (itemCapturePaths position items).Pairwise (· < ·) := by
  match items with
  | [] => exact List.Pairwise.nil
  | item :: items =>
    refine List.pairwise_append.mpr ⟨pairwise_map_cons position (pairwise_capturePaths item),
      pairwise_itemCapturePaths (position + 1) items, fun path first later other => ?_⟩
    obtain ⟨below, -, rfl⟩ := mem_map_cons.mp first
    obtain ⟨i, _, rest, -, rfl, -⟩ := mem_itemCapturePaths.mp other
    exact List.cons_lt_cons_iff.mpr (.inl (by omega))

end

end PatternDispatch.Pattern
