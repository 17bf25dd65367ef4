import PatternDispatch.Number
import PatternDispatch.Text.Display
import PatternDispatch.Value.NumericArray

/-!
Arrays in writing. The cells of an array are written in columns of one width, row by row in nested
brackets; a row that does not fit into a line goes on in the next one. Numbers in single precision
have as many digits as it takes to tell them apart, but not more than eight behind the point.
-/

namespace PatternDispatch

attribute [local instance (high)] instPowNat Rat.instMax Rat.instMin

namespace Text

def paddedLeft (width : Nat) (t : Text) : Text := spaces (width - t.length) ++ t

def paddedRight (width : Nat) (t : Text) : Text := t ++ spaces (width - t.length)

def trimmedRight (t : Text) : Text := (t.reverse.dropWhile (· = ' '.toNat)).reverse

end Text

namespace Binary

variable {f : Format}

/-- The text of a number that is not finite. -/
def wordText (x : Binary f) : Text :=
  match x with
  | nan => Text.ofString "nan"
  | x => Number.signed x.isNegative (Text.ofString "inf")

/-- The shortest decimal that reads back as the magnitude of a finite number. -/
def shortestSize : Binary f → Decimal
  | finite _ rank => if rank.val = 0 then ⟨0, 0⟩ else Decimal.shortest f rank
  | _ => ⟨0, 0⟩

/-- The text of a number that stands alone. -/
def plainText (x : Binary f) : Text :=
  match x.toRat? with
  | none => x.wordText
  | some q =>
    let size := if q < 0 then -q else q
    let isPositional : Bool := q == 0 || (1 ≤ size * 10 ^ (4 : Nat) && size < 10 ^ (16 : Nat))
    let d := x.shortestSize
    Number.signed x.isNegative (if isPositional then d.positionalSpelling else d.scientificSpelling)

end Binary

/-- The parts of a number in a column: what stands before the point and behind it, and the power of
ten. -/
structure ColumnNumeral where
  whole : Text
  fraction : Text
  power : Text

namespace ColumnNumeral

/-- The most digits behind the point of a number without a power of ten. -/
def placeLimit : Nat := 8

def positional (x : Binary32) : ColumnNumeral :=
  let shortest := x.shortestSize
  let q := x.toRat?.getD 0
  let d : Decimal :=
    if shortest.exponent < -(placeLimit : Int) then
      Decimal.trimmed ⟨Binary.nearestQuotient (q.num.natAbs * 10 ^ placeLimit) q.den, -placeLimit⟩
    else shortest
  let digits := d.positionalSpelling
  let fraction := (digits.dropWhile (· ≠ '.'.toNat)).tail
  { whole := Number.signed x.isNegative (digits.takeWhile (· ≠ '.'.toNat))
    fraction := if 0 ≤ d.exponent then [] else fraction
    power := [] }

def scientific (x : Binary32) : ColumnNumeral :=
  let d := x.shortestSize
  let digits := Text.ofNat d.coefficient
  { whole := Number.signed x.isNegative (digits.take 1)
    fraction := digits.drop 1
    power := Decimal.power (digits.length + d.exponent - 1) }

/-- Whether powers of ten are written: a number is great or small, or the numbers differ much. -/
def isScientific (finite : List Binary32) : Bool :=
  let sizes := (finite.filterMap fun x => x.unsigned.toRat?).filter (· ≠ 0)
  let single (q : Rat) : Rat := ((Binary.ofRat .binary32 q).toRat?).getD (2 ^ (128 : Nat))
  match sizes.max?, sizes.min? with
  | some most, some least =>
    10 ^ (6 : Nat) ≤ most || least < single (1 / 10000) || 1000 < single (most / least)
  | _, _ => false

end ColumnNumeral

namespace NumericArray

private def longest (texts : List Text) : Nat := (texts.map List.length).foldl max 0

/-- Numbers in single precision with their points in one column. -/
def numeralColumn (cells : List Binary32) : List Text :=
  let isFinite (x : Binary32) : Bool := x.toRat?.isSome
  let finite := cells.filter isFinite
  let isScientific := ColumnNumeral.isScientific finite
  let numeral (x : Binary32) : ColumnNumeral :=
    if isScientific then .scientific x else .positional x
  let numerals := finite.map numeral
  let places := longest (numerals.map (·.fraction))
  let behind := 1 + places + longest (numerals.map (·.power))
  let words := (cells.filter (!isFinite ·)).map Binary.wordText
  let spare := if words.isEmpty then 0 else max 3 (longest words) - behind
  let before := max (longest (numerals.map (·.whole))) spare
  cells.map fun x =>
    if isFinite x then
      let n := numeral x
      let fraction :=
        if isScientific then n.fraction ++ List.replicate (places - n.fraction.length) '0'.toNat
        else n.fraction.paddedRight places
      n.whole.paddedLeft before ++ '.'.toNat :: (fraction ++ n.power)
    else x.wordText.paddedLeft (before + behind)

/-- The texts of the cells, all of one length unless a cell is alone. -/
def cellTexts (a : NumericArray) : List Text :=
  match a.cells with
  | .int32 cells =>
    let texts := cells.map Text.ofInt
    texts.map (Text.paddedLeft (longest texts))
  | .float32 cells => numeralColumn cells
  | .truth cells =>
    let holding := if a.isScalar then "True" else " True"
    cells.map fun b => Text.ofString (if b then holding else "False")

/-- The texts of a row behind each other; a text that would reach beyond the width begins a new
line. -/
def rowText (separator : Text) (indent width : Nat) (texts : List Text) : Text :=
  let extend (state : Text × Text) (t : Text) : Text × Text :=
    let (done, line) := state
    if width < line.length + t.length ∧ indent < line.length then
      (done ++ line.trimmedRight ++ ['\n'.toNat], Text.spaces indent ++ t)
    else (done, line ++ t)
  let step (state : Text × Text) (t : Text) : Text × Text :=
    let (done, line) := extend state t
    (done, line ++ separator)
  let begun := texts.dropLast.foldl step ([], Text.spaces indent)
  let (done, line) := extend begun (texts.getLastD [])
  (done ++ line).drop indent

/-- Texts in nested brackets. -/
def bracketed (separator : Text) : List Nat → Nat → Nat → List Text → Text
  | [], _, _, texts => texts.headD []
  | [_], indent, width, texts =>
    Text.ofString "[" ++ rowText separator indent (width - 1) texts ++ Text.ofString "]"
  | count :: shape, indent, width, texts =>
    let size := room shape
    let row (index : Nat) : Text :=
      bracketed separator shape (indent + 1) (width - 1) ((texts.drop (index * size)).take size)
    let between :=
      separator.trimmedRight ++ List.replicate shape.length '\n'.toNat ++ Text.spaces indent
    Text.ofString "[" ++ between.intercalate ((List.range count).map row) ++ Text.ofString "]"

/-- The greatest length of a line. -/
def lineWidth : Nat := 75

/-- The text of an array that stands alone. -/
def text (a : NumericArray) : Text :=
  if a.shape.contains 0 then Text.ofString "[]"
  else
    match a.shape, a.cells with
    | [], .float32 [x] => x.plainText
    | shape, _ => bracketed (Text.ofString " ") shape 1 lineWidth a.cellTexts

/-- The text of an array inside another value. -/
def displayed (a : NumericArray) : Text :=
  let opening := Text.ofString "Array("
  let type := Text.ofString ("dtype=" ++ match a.cells with
    | .int32 _ => "int32)"
    | .float32 _ => "float32)"
    | .truth _ => "bool)")
  let inner :=
    if a.shape.contains 0 then
      Text.ofString "[], shape=" ++ Text.tuple (a.shape.map Text.ofNat)
    else bracketed (Text.ofString ", ") a.shape (opening.length + 1) (lineWidth - 1) a.cellTexts
  let last := inner.reverse.takeWhile (· ≠ '\n'.toNat)
  let gap :=
    if lineWidth < last.length + type.length + 3 then '\n'.toNat :: Text.spaces opening.length
    else Text.spaces 1
  opening ++ inner ++ ','.toNat :: (gap ++ type)

end NumericArray

end PatternDispatch
