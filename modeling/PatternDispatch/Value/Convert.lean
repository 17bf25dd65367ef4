import PatternDispatch.Number.IntegerText
import PatternDispatch.Value.Display
import PatternDispatch.Value.Hashing

/-!
The value of a built-in type that is made from another value: numbers are read from texts, integers
keep the part of a number before the point, and maps are filled from pairs.
-/

namespace PatternDispatch.Value

attribute [local instance (high)] instPowNat

/-- The rational value of a number that is kept as one. -/
def toRat? (v : Value) : Option Rat :=
  match v.underlying with
  | bool value => some (if value then 1 else 0)
  | int value => some value
  | fraction value => some value
  | float value => value.toRat?
  | _ => none

/-- A rational number in double precision, unless it is out of range. -/
def nearestFloat (q : Rat) : Except Failure Binary64 :=
  let x := Binary.ofRat _ q
  if x.isInfinite then .error (.arithmetic .outOfRange) else .ok x

/-- A real number in double precision; only decimal numbers out of range become infinite. -/
def toFloat? (v : Value) : Option (Except Failure Binary64) :=
  match v.underlying with
  | float value => some (.ok value)
  | decimal (.nan _ _ _) => some (.ok .nan)
  | decimal (.infinity negative) => some (.ok (.infinity negative))
  | decimal (.finite negative size) => some (.ok (size.round _ negative))
  | v => v.toRat?.map nearestFloat

def itemsOf (v : Value) : Except Failure (List Value) :=
  match v.items? with
  | some items => .ok items
  | none =>
    .error (.misuse (if v.isArray then .scalarIteration else .notIterable v.qualifiedTypeName))

/-- Why the item at a position is no pair of a key and a value. -/
def pairFault (position : Nat) (item : Value) : Failure :=
  let element : Text := Text.ofString "dictionary update sequence element #" ++ Text.ofNat position
  match item.items? with
  | none =>
    .misuse (.notPair
      (Text.ofString "cannot convert " ++ element ++ Text.ofString " to a sequence"))
  | some items =>
    .valueError (element ++ Text.ofString " has length " ++ Text.ofNat items.length ++
      Text.ofString "; 2 is required")

/-- The entries that pairs of a key and a value stand for, counted from a position on. -/
def entriesOfPairs (classes : ClassTable) (position : Nat) :
    List Value → Except Failure (List (Value × Value))
  | [] => .ok []
  | pair :: pairs =>
    match pair.items? with
    | some [key, value] =>
      match key.keyFault? classes with
      | some fault => .error (.misuse fault)
      | none => (entriesOfPairs classes (position + 1) pairs).map ((key, value) :: ·)
    | _ => .error (pairFault position pair)

/-- What numbers are read from: a text or bytes, and how it is shown in a message. -/
def readable? (v : Value) : Option (Text × Text) :=
  match v.underlying with
  | str t => some (t, t.displayed)
  | foreign name items =>
    if name = Text.ofString "bytes" then
      some (bytesOf items, foreignText name items [])
    else none
  | _ => none

/-- The longest part of a text that a message about an integer shows. -/
def shownLimit : Nat := 200

def readInt (radix : Nat) (t shown : Text) : Except Failure Value :=
  match t.readInteger radix with
  | .ok n => .ok (int n)
  | .error (.tooLong digits) => .error (.valueError (Numeral.limitMessage (some digits)))
  | .error .malformed =>
    .error (.valueError (Text.ofString "invalid literal for int() with base " ++ Text.ofNat radix ++
      Text.ofString ": " ++ shown.take shownLimit))

def readFloat (t shown : Text) : Except Failure Value :=
  let refused : Except Failure Value :=
    .error (.valueError (Text.ofString "could not convert string to float: " ++ shown))
  match t.plainNumeral.ungrouped? Character.isDigit 0 with
  | none => refused
  | some body =>
    let words := ["nan", "inf", "infinity"]
    if body.withoutSign.isDecimal ||
        words.any fun word => DecimalNumber.behind? word body.withoutSign == some [] then
      match (decimal (DecimalNumber.read body)).toFloat? with
      | some (.ok x) => .ok (float x)
      | _ => refused
    else refused

/-- The part of a decimal number before the point. -/
def wholePart (negative : Bool) (d : Decimal) : Int :=
  let size : Nat :=
    if 0 ≤ d.exponent then d.coefficientAt 0
    else if d.digitCount ≤ d.exponent.natAbs then 0
    else d.coefficient / 10 ^ d.exponent.natAbs
  if negative then -size else size

/-- The cell of an array of rank zero as a number or truth value of its own; any other value is its
own. -/
def unboxed (v : Value) : Except Failure Value :=
  match v with
  | array ⟨[], .int32 [n], _⟩ => .ok (int n)
  | array ⟨[], .float32 [x], _⟩ => .ok (float (x.convert _))
  | array ⟨[], .truth [b], _⟩ => .ok (bool b)
  | array cells => .error (.misuse (.notScalar cells.shape.length))
  | v => .ok v

/-- The integer part of a number. -/
def truncated (v : Value) : Except Failure Value :=
  let refused (what : String) : Except Failure Value :=
    .error (.valueError (Text.ofString ("cannot convert " ++ what)))
  match v.underlying, v.toRat? with
  | _, some q => .ok (int (q.num.tdiv q.den))
  | float .nan, _ => refused "float NaN to integer"
  | decimal (.nan _ _ _), _ => refused "NaN to integer"
  | decimal (.finite negative size), _ => .ok (int (wholePart negative size))
  | float _, _ | decimal _, _ => .error (.arithmetic .outOfRange)
  | _, _ => .error (.misuse (.notConvertible BuiltIn.int.name v.qualifiedTypeName))

/-- The number in double precision. -/
def widened (v : Value) : Except Failure Value :=
  match v.underlying, v.toFloat? with
  | decimal (.nan true _ _), _ =>
    .error (.valueError (Text.ofString "cannot convert signaling NaN to float"))
  | _, some x => x.map float
  | _, none => .error (.misuse (.notConvertible BuiltIn.float.name v.qualifiedTypeName))

/-- The value of a built-in type that is made from another value. -/
def convert (classes : ClassTable) (target : BuiltIn) (v : Value) : Except Failure Value :=
  match target, v.readable? with
  | .list, _ => v.itemsOf.map list
  | .tuple, _ => v.itemsOf.map tuple
  | .map, _ =>
    match v.entries? with
    | some entries => .ok (map entries)
    | none => do (entriesOfPairs classes 0 (← v.itemsOf)).map mapOf
  | .text, _ => (v.text classes).map str
  | .int, some (t, shown) => readInt 10 t shown
  | .int, none => do (← v.unboxed).truncated
  | .float, some (t, shown) => readFloat t shown
  | .float, none => do (← v.unboxed).widened

end PatternDispatch.Value
