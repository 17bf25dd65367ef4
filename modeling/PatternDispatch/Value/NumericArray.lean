import PatternDispatch.Number

/-!
Rectangular arrays of numbers or truth values: a shape and the cells in row-major order, as many as
the shape has room for. An array of rank zero holds one cell; any other is the sequence of its rows.
Cells are integers of 32 bits, floating-point numbers of 32 bits or truth values, and nothing else.
-/

namespace PatternDispatch

inductive Cells where
  | int32 (cells : List Int)
  | float32 (cells : List Binary32)
  | truth (cells : List Bool)
deriving DecidableEq, Repr

namespace Cells

def length : Cells → Nat
  | int32 cells => cells.length
  | float32 cells => cells.length
  | truth cells => cells.length

def slice (start count : Nat) : Cells → Cells
  | int32 cells => .int32 ((cells.drop start).take count)
  | float32 cells => .float32 ((cells.drop start).take count)
  | truth cells => .truth ((cells.drop start).take count)

theorem length_slice {cells : Cells} {start count : Nat} (inside : count ≤ cells.length - start) :
    (cells.slice start count).length = count := by
  cases cells <;>
  · rw [slice, length, List.length_take, List.length_drop]
    exact Nat.min_eq_left inside

end Cells

/-- The number of cells that a shape has room for. -/
def NumericArray.room (shape : List Nat) : Nat := shape.foldr (· * ·) 1

structure NumericArray where
  shape : List Nat
  cells : Cells
  filled : cells.length = NumericArray.room shape
deriving DecidableEq, Repr

namespace NumericArray

def isScalar (a : NumericArray) : Bool := a.shape.isEmpty

def isTruth (a : NumericArray) : Bool :=
  match a.cells with
  | .truth _ => true
  | _ => false

/-- The number of rows; a scalar has none. -/
def rowCount (a : NumericArray) : Nat := a.shape.headD 0

def rowSize (a : NumericArray) : Nat := room a.shape.tail

/-- Rows that are there have all their cells. -/
theorem cells_of_rows (a : NumericArray) {start count : Nat} (there : count ≤ a.rowCount - start) :
    count * a.rowSize ≤ a.cells.length - start * a.rowSize := by
  obtain ⟨shape, cells, filled⟩ := a
  cases shape with
  | nil =>
    obtain rfl : count = 0 := Nat.le_zero.mp (Nat.zero_sub start ▸ there)
    rw [Nat.zero_mul]
    exact Nat.zero_le _
  | cons rows shape =>
    have whole : cells.length = rows * room shape := filled
    rw [whole, rowSize, List.tail_cons, ← Nat.sub_mul]
    exact Nat.mul_le_mul_right _ there

def row (a : NumericArray) (index : Fin a.rowCount) : NumericArray where
  shape := a.shape.tail
  cells := a.cells.slice (index * a.rowSize) a.rowSize
  filled := by
    have there : 1 ≤ a.rowCount - index := Nat.sub_pos_of_lt index.isLt
    have inside := a.cells_of_rows there
    rw [Nat.one_mul] at inside
    exact Cells.length_slice inside

theorem row_shape (a : NumericArray) (index : Fin a.rowCount) :
    (a.row index).shape = a.shape.tail := rfl

theorem row_cells (a : NumericArray) (index : Fin a.rowCount) :
    (a.row index).cells = a.cells.slice (index * a.rowSize) a.rowSize := rfl

def rows (a : NumericArray) : List NumericArray := (List.finRange a.rowCount).map a.row

/-- The rows from `start` up to but not including `stop`, or up to the last one. -/
def span (a : NumericArray) (start stop : Nat) : NumericArray where
  shape := (min stop a.rowCount - start) :: a.shape.tail
  cells := a.cells.slice (start * a.rowSize) ((min stop a.rowCount - start) * a.rowSize)
  filled :=
    Cells.length_slice (a.cells_of_rows (Nat.sub_le_sub_right (Nat.min_le_right _ _) start))

theorem span_shape (a : NumericArray) (start stop : Nat) :
    (a.span start stop).shape = (min stop a.rowCount - start) :: a.shape.tail := rfl

theorem span_cells (a : NumericArray) (start stop : Nat) :
    (a.span start stop).cells =
      a.cells.slice (start * a.rowSize) ((min stop a.rowCount - start) * a.rowSize) := rfl

end NumericArray

end PatternDispatch
