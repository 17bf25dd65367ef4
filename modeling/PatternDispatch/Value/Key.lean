import PatternDispatch.Value.Moment

/-!
Keys of maps. Numbers are one key when their values are equal and a truth value counts as zero or
one; a text, number or tuple of a derived class is the key that its contents are. Inserting under a
key that is there keeps the key and its place.
-/

namespace PatternDispatch.Value

/-- The value of a number that is neither decimal nor off the real line. -/
def realValue? : Value → Option Exact
  | bool value => some (.rational (if value then 1 else 0))
  | int value => some (.rational value)
  | float value => some value.exact
  | fraction value => some (.rational value)
  | complex re im => if im.isZero then some re.exact else none
  | _ => none

/-- Whether two values are numbers of the same value. -/
def sameNumber : Value → Value → Bool
  | decimal a, decimal b => a.sameValue b
  | decimal a, b | b, decimal a => b.realValue?.any a.equals
  | complex p q, complex r s => p.sameValue r && q.sameValue s
  | a, b =>
    match a.realValue?, b.realValue? with
    | some m, some n => m.equals n
    | _, _ => false

/-- Whether two values that hold no others are one key. -/
def sameAtom : Value → Value → Bool
  | null, null | undefined, undefined => true
  | str a, str b | regexp a, regexp b | function a, function b => a == b
  | moment a s, moment b t => a == b && a.isSame s t
  | foreign a _, foreign b _ | classRef a _, classRef b _ => a == b
  | a, b => sameNumber a b

/-- The elements of a tuple, also of one of a derived class or with names. -/
def tupleItems? (v : Value) : Option (List Value) :=
  match v.underlying with
  | tuple items => some items
  | namedTuple _ components => some (components.map (·.2))
  | _ => none

mutual

/-- Whether two values are one key of a map. -/
def sameKey : Value → Value → Bool
  | derived _ base _, b => sameKey base b
  | pass a, b =>
    match b with
    | pass c => sameKey a c
    | _ => false
  | tuple items, b =>
    match b.tupleItems? with
    | some others => sameKeys items others
    | none => false
  | namedTuple _ components, b =>
    match b.tupleItems? with
    | some others => sameComponents components others
    | none => false
  | a, b => sameAtom a b.underlying

def sameKeys : List Value → List Value → Bool
  | [], [] => true
  | a :: as, b :: bs => sameKey a b && sameKeys as bs
  | _, _ => false

def sameComponents : List (Text × Value) → List Value → Bool
  | [], [] => true
  | (_, a) :: as, b :: bs => sameKey a b && sameComponents as bs
  | _, _ => false

end

def insertEntry (entries : List (Value × Value)) (key value : Value) : List (Value × Value) :=
  match entries with
  | [] => [(key, value)]
  | (k, v) :: others =>
    if sameKey k key then (k, value) :: others else (k, v) :: insertEntry others key value

/-- The map that results from inserting entries one by one. -/
def mapOf (entries : List (Value × Value)) : Value :=
  map (entries.foldl (fun found entry => insertEntry found entry.1 entry.2) [])

/-- Whether a key is the given text. -/
def isKey (name : Text) (key : Value) : Bool := key.text? == some name

/-- The entry of a mapping under a text. -/
def lookupText (entries : List (Value × Value)) (name : Text) : Option Value :=
  (entries.find? fun entry => isKey name entry.1).map (·.2)

end PatternDispatch.Value
