import PatternDispatch.Value.ArrayArithmetic
import PatternDispatch.Value.Convert

/-!
Sums, magnitudes and signs of values. A sum of numbers of two types is of the wider one, and a sum
with an array is an array.
-/

namespace PatternDispatch

attribute [local instance (high)] instPowNat

namespace Value

/-- Truth values count as integers. -/
def asInt? (v : Value) : Option Int :=
  match v.underlying with
  | bool value => some (if value then 1 else 0)
  | int value => some value
  | _ => none

def decimal? (v : Value) : Option DecimalNumber :=
  match v.underlying with
  | decimal value => some value
  | v => v.asInt?.map DecimalNumber.ofInt

/-- The real and the imaginary part of a number. -/
def parts? (v : Value) : Option (Except Failure (Binary64 × Binary64)) :=
  match v.underlying with
  | complex re im => some (.ok (re, im))
  | decimal _ => none
  | v => v.toFloat?.map fun x => x.map fun x => (x, Binary.ofInt _ 0)

/-- A number as an array of rank zero, and an array itself. An integer that no cell has room for is
out of range. -/
def asArray? (v : Value) : Option (Except Failure NumericArray) :=
  match v.underlying with
  | array cells => some (.ok cells)
  | bool value => some (.ok ⟨[], .truth [value], rfl⟩)
  | int value =>
    some (if int32Range value then .ok ⟨[], .int32 [value], rfl⟩ else .error (.arithmetic .outOfRange))
  | float value => some (.ok ⟨[], .float32 [value.convert _], rfl⟩)
  | _ => none

/-- Containers that arrays refuse under their short name. -/
def isPlainContainer : Value → Bool
  | list _ | tuple _ | map _ => true
  | foreign name _ => name == Text.ofString "set"
  | _ => false

/-- Why two arrays have no sum: their shapes have no common one. -/
def shapeFault (a b : List Nat) : Failure :=
  if a.length = b.length then .misuse (.notStretchable a b)
  else
    .valueError (Text.ofString "Incompatible shapes for broadcasting: shapes=" ++
      Text.enclosed "[" "]" ([a, b].map fun shape => Text.tuple (shape.map Text.ofNat)))

/-- The sum of two numbers in the wider of their types. -/
def add (a b : Value) : Except Failure Value :=
  let refused : Except Failure Value :=
    .error (.misuse (.notAddable a.qualifiedTypeName b.qualifiedTypeName))
  match a.underlying, b.underlying with
  | array _, _ | _, array _ =>
    match a.asArray?, b.asArray? with
    | some m, some n => do
      let m ← m
      let n ← n
      match m.add? n with
      | some sum => return array sum
      | none => throw (shapeFault m.shape n.shape)
    | _, _ =>
      if b.isPlainContainer then .error (.misuse (.notAddable a.typeName b.typeName)) else refused
  | decimal _, _ | _, decimal _ =>
    match a.decimal?, b.decimal? with
    | some m, some n =>
      match m.add n with
      | .ok sum => .ok (decimal sum)
      | .error e => .error (.arithmetic e)
    | _, _ => refused
  | complex _ _, _ | _, complex _ _ =>
    match a.parts?, b.parts? with
    | some m, some n => do
      let (p, q) ← m
      let (r, s) ← n
      return complex (p.add r) (q.add s)
    | _, _ => refused
  | float _, _ | _, float _ =>
    match a.toFloat?, b.toFloat? with
    | some x, some y => do return float ((← x).add (← y))
    | _, _ => refused
  | fraction _, _ | _, fraction _ =>
    match a.toRat?, b.toRat? with
    | some p, some q => .ok (fraction (p + q))
    | _, _ => refused
  | _, _ =>
    match a.asInt?, b.asInt? with
    | some m, some n => .ok (int (m + n))
    | _, _ => refused

/-- The sum of values from the left, beginning with zero. -/
def sum (values : List Value) : Except Failure Value := values.foldlM add (int 0)

/-- The greatest integer whose square does not exceed a number. -/
def squareRoot (n : Nat) : Nat :=
  (List.range (n.log2 / 2 + 1)).foldr
    (fun place root => if (root + 2 ^ place) ^ (2 : Nat) ≤ n then root + 2 ^ place else root) 0

/-- The distance of two coordinates from the origin, to the nearest number: an odd last bit stands
for what the integer root leaves. Finite coordinates can have a distance out of range. -/
def distance (x y : Binary64) : Except Failure Binary64 :=
  match x.toRat?, y.toRat? with
  | some p, some q =>
    let square := p * p + q * q
    let scale := 2 ^ (64 : Nat)
    let root := squareRoot (square.num.natAbs * square.den * scale ^ (2 : Nat))
    let isExact := root ^ (2 : Nat) == square.num.natAbs * square.den * scale ^ (2 : Nat)
    nearestFloat (mkRat (2 * root + if isExact then 0 else 1) (2 * square.den * scale))
  | _, _ => .ok (if x.isInfinite || y.isInfinite then .infinity false else .nan)

/-- The value without its sign. -/
def magnitude (v : Value) : Except Failure Value :=
  match v.underlying with
  | bool value => .ok (int (if value then 1 else 0))
  | int value => .ok (int value.natAbs)
  | fraction value => .ok (fraction (if value < 0 then -value else value))
  | float value => .ok (float value.unsigned)
  | decimal value =>
    match value.magnitude with
    | .ok size => .ok (decimal size)
    | .error e => .error (.arithmetic e)
  | complex re im => (distance re im).map float
  | array cells => .ok (array cells.magnitude)
  | foreign name _ =>
    if name = Text.ofString "timedelta" then .ok v
    else .error (.misuse (.noMagnitude v.qualifiedTypeName))
  | _ => .error (.misuse (.noMagnitude v.qualifiedTypeName))

/-- Whether a real number is beyond zero on the negative or on the positive side. An array is judged
by its cell, of which it must have one. -/
def isBeyondZero (negative : Bool) (v : Value) : Except Failure Bool :=
  match v.underlying with
  | float value => .ok (value.isBeyondZero negative)
  | decimal (.nan _ _ _) => .error (.comparison .invalidOperation)
  | decimal (.infinity sign) => .ok (sign == negative)
  | decimal (.finite sign size) => .ok (sign == negative && size.coefficient != 0)
  | array cells =>
    match cells.cells.beyondZero negative with
    | [holds] => .ok holds
    | [] =>
      .error (.valueError (Text.ofString ("The truth value of an empty array is ambiguous. Use" ++
        " `array.size > 0` to check that an array is not empty.")))
    | _ =>
      .error (.valueError (Text.ofString ("The truth value of an array with more than one" ++
        " element is ambiguous. Use a.any() or a.all()")))
  | _ =>
    match v.toRat? with
    | some q => .ok (if negative then decide (q < 0) else decide (0 < q))
    | none => .error (.misuse (.notOrdered negative v.qualifiedTypeName))

end Value

end PatternDispatch
