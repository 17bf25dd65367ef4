import PatternDispatch.Number.DecimalArithmetic
import PatternDispatch.Value.NumericArray

/-!
Arithmetic on arrays, cell by cell. Two arrays are stretched to a common shape first: axes are
compared from the last one on, and an axis that is missing or has one place takes the length of the
other. Integer cells wrap around, and subnormal numbers count as zero.
-/

namespace PatternDispatch

attribute [local instance (high)] instPowNat

namespace Cells

/-- The cells in another arrangement. -/
def rearranged (arrange : {α : Type} → List α → List α) : Cells → Cells
  | int32 cells => int32 (arrange cells)
  | float32 cells => float32 (arrange cells)
  | truth cells => truth (arrange cells)

theorem length_rearranged {arrange : {α : Type} → List α → List α} {cells : Cells}
    {count arranged : Nat} (full : cells.length = count)
    (each : ∀ {α : Type} {cells : List α}, cells.length = count →
      (arrange cells).length = arranged) :
    (cells.rearranged arrange).length = arranged := by
  cases cells <;> exact each full

/-- The cells as integers, unless they are of single precision. -/
def integers? : Cells → Option (List Int)
  | int32 cells => some cells
  | float32 _ => none
  | truth cells => some (cells.map fun b => if b then 1 else 0)

/-- The cells in single precision. -/
def singles : Cells → List Binary32
  | int32 cells => cells.map (Binary.ofInt _)
  | float32 cells => cells
  | truth cells => cells.map fun b => Binary.ofInt _ (if b then 1 else 0)

/-- The integer of 32 bits that an integer leaves. -/
def wrapped (n : Int) : Int := n.bmod (2 ^ (32 : Nat))

/-- The sums of cells in the wider of their types. -/
def add (a b : Cells) : Cells :=
  match a, b with
  | truth p, truth q => truth (p.zipWith (· || ·) q)
  | a, b =>
    match a.integers?, b.integers? with
    | some m, some n => int32 (m.zipWith (fun x y => wrapped (x + y)) n)
    | _, _ =>
      float32 (a.singles.zipWith (fun x y => (x.flushed.add y.flushed).flushed) b.singles)

theorem length_singles (cells : Cells) : cells.singles.length = cells.length := by
  cases cells with
  | float32 cells => rfl
  | int32 cells | truth cells => exact List.length_map _

theorem length_integers {cells : Cells} {integers : List Int}
    (some : cells.integers? = some integers) : integers.length = cells.length := by
  cases cells with
  | int32 cells => cases some; rfl
  | float32 cells => cases some
  | truth cells => cases some; exact List.length_map _

theorem length_add {a b : Cells} (alike : a.length = b.length) :
    (a.add b).length = a.length := by
  have paired {m n : Nat} (left : m = a.length) (right : n = b.length) : min m n = a.length := by
    omega
  unfold add
  split
  · exact List.length_zipWith.trans (paired rfl rfl)
  · split
    · next left right =>
      exact List.length_zipWith.trans (paired (length_integers left) (length_integers right))
    · exact List.length_zipWith.trans (paired a.length_singles b.length_singles)

def magnitudes : Cells → Cells
  | int32 cells => int32 (cells.map fun n => wrapped n.natAbs)
  | float32 cells => float32 (cells.map Binary.unsigned)
  | truth cells => truth cells

theorem length_magnitudes (cells : Cells) : cells.magnitudes.length = cells.length := by
  cases cells with
  | truth cells => rfl
  | int32 cells | float32 cells => exact List.length_map _

/-- Which cells lie beyond zero on the negative or on the positive side. -/
def beyondZero (negative : Bool) : Cells → List Bool
  | int32 cells => cells.map fun n => if negative then decide (n < 0) else decide (0 < n)
  | float32 cells => cells.map fun x => x.flushed.isBeyondZero negative
  | truth cells => cells.map fun b => b && !negative

end Cells

namespace NumericArray

/-- A shape with axes of one place in front, so that there are as many as asked for. -/
def padded (rank : Nat) (shape : List Nat) : List Nat :=
  List.replicate (rank - shape.length) 1 ++ shape

theorem room_padded (rank : Nat) (shape : List Nat) : room (padded rank shape) = room shape := by
  unfold padded
  induction rank - shape.length with
  | zero => rfl
  | succ missing ih => exact (Nat.one_mul _).trans ih

/-- A shape stretches to another one: each axis has its length there, or one place. -/
inductive Stretches : List Nat → List Nat → Prop where
  | scalar : Stretches [] []
  | kept (length : Nat) {shape target : List Nat} : Stretches shape target →
      Stretches (length :: shape) (length :: target)
  | widened (length : Nat) {shape target : List Nat} : Stretches shape target →
      Stretches (1 :: shape) (length :: target)

/-- The shape that two shapes with as many axes are stretched to. -/
def commonShape? : List Nat → List Nat → Option (List Nat)
  | [], [] => some []
  | m :: ms, n :: ns =>
    if m = n ∨ n = 1 then (commonShape? ms ns).map (m :: ·)
    else if m = 1 then (commonShape? ms ns).map (n :: ·)
    else none
  | _, _ => none

theorem stretches_common {ms ns shape : List Nat} (common : commonShape? ms ns = some shape) :
    Stretches ms shape ∧ Stretches ns shape := by
  induction ms, ns using commonShape?.induct generalizing shape with
  | case1 =>
    cases common
    exact ⟨.scalar, .scalar⟩
  | case2 m ms n ns alike ih =>
    rw [commonShape?, if_pos alike] at common
    obtain ⟨shape, below, rfl⟩ := Option.map_eq_some_iff.mp common
    obtain ⟨first, second⟩ := ih below
    refine ⟨.kept m first, ?_⟩
    rcases alike with rfl | rfl
    · exact .kept m second
    · exact .widened m second
  | case3 ms n ns different ih =>
    rw [commonShape?, if_neg different, if_pos rfl] at common
    obtain ⟨shape, below, rfl⟩ := Option.map_eq_some_iff.mp common
    exact ⟨.widened n (ih below).1, .kept n (ih below).2⟩
  | case4 m ms n ns different longer =>
    rw [commonShape?, if_neg different, if_neg longer] at common
    cases common
  | case5 ms ns notEmpty notLonger =>
    rw [commonShape?] at common
    · cases common
    · exact notEmpty
    · exact notLonger

/-- Row-major cells stretched along the axes of their shape: an axis has a row for each place, or
its only row for all of them. -/
def stretched {α : Type} : List Nat → List Nat → List α → List α
  | length :: shape, target :: targets, cells =>
    let row (index : Nat) : List α :=
      stretched shape targets ((cells.drop (index * room shape)).take (room shape))
    (List.range target).flatMap fun index => row (if length = target then index else 0)
  | _, _, cells => cells

theorem length_flatMap_of_forall {α : Type} {f : Nat → List α} {count size : Nat}
    (each : ∀ index < count, (f index).length = size) :
    ((List.range count).flatMap f).length = count * size := by
  have rows : (List.range count).map (fun index => (f index).length) =
      List.replicate count size := by
    refine List.eq_replicate_iff.mpr ⟨by simp, fun found member => ?_⟩
    obtain ⟨index, inside, rfl⟩ := List.mem_map.mp member
    exact each index (List.mem_range.mp inside)
  rw [List.length_flatMap, rows, List.sum_replicate_nat]

theorem length_stretched {α : Type} {shape target : List Nat} (stretches : Stretches shape target)
    {cells : List α} (full : cells.length = room shape) :
    (stretched shape target cells).length = room target := by
  have block {size rows index : Nat} {cells : List α} (full : cells.length = rows * size)
      (inside : index < rows) : ((cells.drop (index * size)).take size).length = size := by
    have there : (index + 1) * size ≤ rows * size := Nat.mul_le_mul_right size inside
    rw [Nat.succ_mul] at there
    rw [List.length_take, List.length_drop, full]
    omega
  induction stretches generalizing cells with
  | scalar => exact full
  | kept length _ ih =>
    refine length_flatMap_of_forall fun index inside => ih (block full ?_)
    rwa [if_pos rfl]
  | widened length _ ih =>
    refine length_flatMap_of_forall fun index inside => ih (block full ?_)
    split <;> omega

/-- An array whose shape, with axes in front, stretches to another one is stretched to it. -/
def stretchedTo (a : NumericArray) {rank : Nat} {target : List Nat}
    (stretches : Stretches (padded rank a.shape) target) : NumericArray where
  shape := target
  cells := a.cells.rearranged (stretched (padded rank a.shape) target)
  filled := by
    have full := a.filled.trans (room_padded rank a.shape).symm
    exact Cells.length_rearranged full fun full => length_stretched stretches full

/-- The sum of two arrays that have a common shape. -/
def add? (a b : NumericArray) : Option NumericArray :=
  let rank := max a.shape.length b.shape.length
  match common : commonShape? (padded rank a.shape) (padded rank b.shape) with
  | none => none
  | some shape =>
    let left := a.stretchedTo (stretches_common common).1
    let right := b.stretchedTo (stretches_common common).2
    have alike : left.cells.length = right.cells.length := left.filled.trans right.filled.symm
    some ⟨shape, left.cells.add right.cells, (Cells.length_add alike).trans left.filled⟩

def magnitude (a : NumericArray) : NumericArray :=
  ⟨a.shape, a.cells.magnitudes, a.cells.length_magnitudes.trans a.filled⟩

end NumericArray

end PatternDispatch
