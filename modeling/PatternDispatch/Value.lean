import PatternDispatch.Number.Exact
import PatternDispatch.Value.NumericArray

/-!
The values that patterns are matched against. Objects name their class; what a class adds to its
instances beyond their contents is kept in a class table.
-/

namespace PatternDispatch

attribute [local instance (high)] instPowNat

inductive Moment where
  | date
  | time
  | datetime
deriving DecidableEq, Repr

inductive Value where
  | null
  | undefined
  | bool (value : Bool)
  | int (value : Int)
  | float (value : Binary64)
  | decimal (value : DecimalNumber)
  | fraction (value : Rat)
  | complex (re im : Binary64)
  | str (text : Text)
  | list (items : List Value)
  | tuple (items : List Value)
  /-- The entries of a map in the order of their insertion. -/
  | map (entries : List (Value × Value))
  | array (cells : NumericArray)
  | moment (kind : Moment) (text : Text)
  | regexp (source : Text)
  | function (name : Text)
  /-- A value of a type that patterns cannot look into, with the items it yields. -/
  | foreign (typeName : Text) (items : List Value)
  /-- The wrapper by which an extractor reports success. -/
  | pass (value : Value)
  /-- A class itself, with the name of the type it is of. -/
  | classRef (name typeName : Text)
  /-- An object with the attributes that are present. -/
  | record (className : Text) (attributes : List (Text × Value))
  /-- A tuple whose components have names. -/
  | namedTuple (className : Text) (components : List (Text × Value))
  /-- An object of a class derived from a built-in type: a value of that type, and attributes. -/
  | derived (className : Text) (base : Value) (attributes : List (Text × Value))
  /-- An object that is a mapping without being a map. -/
  | mapping (className : Text) (entries : List (Value × Value))
deriving Repr, Inhabited

namespace Value

def typeName : Value → Text
  | null => Text.ofString "NoneType"
  | undefined => Text.ofString "_Undefined"
  | bool _ => Text.ofString "bool"
  | int _ => Text.ofString "int"
  | float _ => Text.ofString "float"
  | decimal _ => Text.ofString "Decimal"
  | fraction _ => Text.ofString "Fraction"
  | complex _ _ => Text.ofString "complex"
  | str _ => Text.ofString "str"
  | list _ => Text.ofString "list"
  | tuple _ => Text.ofString "tuple"
  | map _ => Text.ofString "dict"
  | array _ => Text.ofString "ArrayImpl"
  | moment .date _ => Text.ofString "date"
  | moment .time _ => Text.ofString "time"
  | moment .datetime _ => Text.ofString "datetime"
  | regexp _ => Text.ofString "Pattern"
  | function name =>
    Text.ofString (if name = Text.ofString "lambda" then "function"
      else "builtin_function_or_method")
  | foreign name _ => name
  | pass _ => Text.ofString "Pass"
  | classRef _ typeName => typeName
  | record name _ | namedTuple name _ | derived name _ _ | mapping name _ => name

/-- The name of the type of a value together with that of the package it belongs to, if any. -/
def qualifiedTypeName (v : Value) : Text :=
  let within (package : String) : Text := Text.ofString package ++ '.'.toNat :: v.typeName
  match v with
  | decimal _ => within "decimal"
  | moment _ _ => within "datetime"
  | regexp _ => within "re"
  | array _ => within "jaxlib._jax"
  | foreign name _ =>
    if name = Text.ofString "deque" then within "collections"
    else if name = Text.ofString "timedelta" then within "datetime"
    else name
  | v => v.typeName

/-- The class of an object, if it has a declared one. -/
def className? : Value → Option Text
  | record name _ | namedTuple name _ | derived name _ _ | mapping name _ => some name
  | _ => none

/-- The value an object of a derived class is made over; every other value is its own. -/
def underlying : Value → Value
  | derived _ base _ => base
  | v => v

def isNull : Value → Bool
  | null => true
  | _ => false

def isUndefined : Value → Bool
  | undefined => true
  | _ => false

def isBool (expected : Bool) : Value → Bool
  | bool value => value == expected
  | _ => false

def text? (v : Value) : Option Text :=
  match v.underlying with
  | str text => some text
  | _ => none

def isArray : Value → Bool
  | array _ => true
  | _ => false

/-- Numbers of every type; a truth value is none, nor is an array other than a scalar of numbers. -/
def isNumber (v : Value) : Bool :=
  match v.underlying with
  | int _ | float _ | decimal _ | fraction _ | complex _ _ => true
  | array cells => cells.isScalar && !cells.isTruth
  | _ => false

/-- The elements of a sequence. -/
def elements? (v : Value) : Option (List Value) :=
  match v.underlying with
  | list items | tuple items => some items
  | namedTuple _ components => some (components.map (·.2))
  | array cells => if cells.isScalar then none else some (cells.rows.map array)
  | _ => none

def isSequence (v : Value) : Bool := v.elements?.isSome

/-- The entries of a mapping. -/
def entries? (v : Value) : Option (List (Value × Value)) :=
  match v.underlying with
  | map entries | mapping _ entries => some entries
  | _ => none

def isMapping (v : Value) : Bool := v.entries?.isSome

/-- What going through a value yields: elements, characters, keys or items. -/
def items? (v : Value) : Option (List Value) :=
  match v.underlying with
  | str text => some (text.map fun c => str [c])
  | map entries | mapping _ entries => some (entries.map (·.1))
  | foreign _ [] => none
  | foreign _ items => some items
  | v => v.elements?

/-- A value of a type that patterns cannot look into, known by the name of its type. -/
def sample (name : Text) : Value :=
  let isNamed (word : String) : Bool := name == Text.ofString word
  foreign name
    (if isNamed "range" then [int 0, int 1, int 2]
    else if isNamed "bytes" then [int 97, int 98]
    else if isNamed "set" || isNamed "deque" then [int 1, int 2]
    else [])

/-- The attributes that an object holds itself. -/
def attributes : Value → List (Text × Value)
  | record _ fields | namedTuple _ fields | derived _ _ fields => fields
  | pass value => [(Text.ofString "value", value)]
  | _ => []

/-- A position counted from the front, or from the end when negative, within the bounds. -/
def clamp (length : Nat) (position : Int) : Nat :=
  if position < 0 then length - position.natAbs else min length position.toNat

/-- The elements from one position up to another: rows of an array stay an array, the elements of
any other sequence and the characters of a text become a list. -/
def span (v : Value) (start stop : Int) : Value :=
  let between (items : List Value) :=
    list ((items.take (clamp items.length stop)).drop (clamp items.length start))
  match v.underlying with
  | array cells => array (cells.span (clamp cells.rowCount start) (clamp cells.rowCount stop))
  | str text => between (text.map fun c => str [c])
  | _ => between (v.elements?.getD [])

def int32Range (n : Int) : Bool := -2 ^ (31 : Nat) ≤ n && n < 2 ^ (31 : Nat)

/-- Why a comparison with a number literal is refused. -/
inductive ComparisonError where
  | overflow
  | invalidOperation
deriving DecidableEq, Repr

/-- A literal as a cell of single precision, and as an integer if it is one. An integer outside
the range of the cells has no place in an array. -/
def cellLiteral : Number → Except ComparisonError (Binary32 × Option Int)
  | .int n => if int32Range n then .ok (Binary.ofInt _ n, some n) else .error .overflow
  | .truth b => .ok (Binary.ofInt _ (if b then 1 else 0), some (if b then 1 else 0))
  | .float x => .ok (x.convert _, none)

/-- Integer cells compare with integers exactly and all other cells in single precision, where
subnormal numbers count as zero. -/
def cellEquals (cells : Cells) (literal : Number) : Except ComparisonError Bool :=
  match cellLiteral literal with
  | .error e => .error e
  | .ok (rounded, whole) =>
    match cells, whole with
    | .int32 [n], some m => .ok (n == m)
    | .int32 [n], none => .ok (Binary.sameValue (Binary.ofInt _ n) rounded.flushed)
    | .float32 [x], _ => .ok (Binary.sameValue x.flushed rounded.flushed)
    | _, _ => .ok false

/-- Whether a value is a number equal to a literal. -/
def numberEquals (v : Value) (literal : Number) : Except ComparisonError Bool :=
  match v.underlying with
  | int n => .ok (Exact.equals (.rational n) literal.exact)
  | float x => .ok (x.exact.equals literal.exact)
  | decimal (.nan true _ _) => .error .invalidOperation
  | decimal d => .ok (d.equals literal.exact)
  | fraction q => .ok (Exact.equals (.rational q) literal.exact)
  | complex re im => .ok (im.isZero && re.exact.equals literal.exact)
  | array cells =>
    if cells.isScalar && !cells.isTruth then cellEquals cells.cells literal else .ok false
  | _ => .ok false

end Value

end PatternDispatch
