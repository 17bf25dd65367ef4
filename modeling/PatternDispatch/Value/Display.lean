import PatternDispatch.Number.DecimalText
import PatternDispatch.Value.ArrayText
import PatternDispatch.Value.Class
import PatternDispatch.Value.Moment

/-!
Values in writing. A value that stands alone is written by its contents, and one inside another
value so that its type can be told. Objects of data classes are written by their fields.
-/

namespace PatternDispatch

attribute [local instance (high)] instPowNat

namespace Binary

variable {f : Format}

/-- The fewest digits that read back, with a point among them unless a power of ten follows. -/
def spelling (x : Binary f) : Text :=
  if x.toRat?.isNone then x.wordText else Number.signed x.isNegative x.shortestSize.spelling

/-- The spelling without a fraction of zero. -/
def partSpelling (x : Binary f) : Text :=
  let t := x.spelling
  if t.drop (t.length - 2) = Text.ofString ".0" then t.take (t.length - 2) else t

end Binary

namespace Value

/-- The real part is left out if it is zero without a sign. -/
def complexText (re im : Binary64) : Text :=
  let unit := Text.ofString "j"
  if re.isZero && !re.isNegative then im.partSpelling ++ unit
  else
    Text.ofString "(" ++ re.partSpelling ++ Text.ofString (if im.isNegative then "" else "+") ++
      im.partSpelling ++ unit ++ Text.ofString ")"

/-- Integers of too many digits are not written. -/
def integerText (n : Int) : Except Failure Text :=
  if n.natAbs < 10 ^ Numeral.digitLimit then .ok (Text.ofInt n)
  else .error (.valueError (Numeral.limitMessage none))

def fractionText (q : Rat) : Except Failure Text := do
  let num ← integerText q.num
  if q.den = 1 then return num else return num ++ '/'.toNat :: (← integerText q.den)

/-- The flags that letters at the beginning of a regular expression turn on. -/
def regexpFlags (source : Text) : List CodePoint :=
  match source with
  | first :: second :: rest =>
    let letters := rest.takeWhile fun c => (Text.ofString "aiLmsux").contains c
    if first = '('.toNat ∧ second = '?'.toNat ∧ letters ≠ [] ∧
        rest[letters.length]? = some ')'.toNat then
      letters ++ regexpFlags (rest.drop (letters.length + 1))
    else []
  | _ => []
termination_by source.length
decreasing_by all_goals simp; omega

/-- The longest part of the source of a regular expression that is written. -/
def regexpLimit : Nat := 200

def regexpText (source : Text) : Text :=
  let flags := regexpFlags source
  let names := [('i', "IGNORECASE"), ('m', "MULTILINE"), ('s', "DOTALL"), ('x', "VERBOSE"),
    ('a', "ASCII")].filterMap fun (letter, name) =>
      if flags.contains letter.toNat then some (Text.ofString ("re." ++ name)) else none
  Text.ofString "re.compile(" ++ source.displayed.take regexpLimit ++
    (if names.isEmpty then [] else Text.ofString ", " ++ (Text.ofString "|").intercalate names) ++
    Text.ofString ")"

/-- The characters of a value that holds bytes. -/
def bytesOf (items : List Value) : Text :=
  items.filterMap fun item => match item with
    | int n => some n.toNat
    | _ => none

/-- An object that shows nothing of what it holds. -/
def objectText (name : Text) : Text :=
  Text.ofString "<" ++ name ++ Text.ofString " object>"

/-- A class is written with the package it is declared in. -/
def classText (classes : ClassTable) (name : Text) : Text :=
  Text.ofString (if classes.contains name then "<class '__main__." else "<class '") ++ name ++
    Text.ofString "'>"

/-- A value of a type that patterns cannot look into. -/
def foreignText (name : Text) (items : List Value) (shown : List Text) : Text :=
  if name = Text.ofString "range" then
    Text.enclosed "range(" ")" [Text.ofNat 0, Text.ofNat items.length]
  else if name = Text.ofString "bytes" then 'b'.toNat :: (bytesOf items).displayed
  else if name = Text.ofString "set" then Text.enclosed "\x7b" "\x7d" shown
  else if name = Text.ofString "deque" then
    Text.enclosed "deque(" ")" [Text.enclosed "[" "]" shown]
  else if name = Text.ofString "timedelta" then Text.ofString "datetime.timedelta(days=1)"
  else objectText name

/-- An object with its fields by name. -/
def fieldsText (name : Text) (fields : List Text) : Text :=
  name ++ Text.enclosed "(" ")" fields

/-- The fields of an object in the order of their names, if all are present. -/
def fieldTexts (className : Text) (shown : List (Text × Except Failure Text)) :
    List Text → Except Failure (List Text)
  | [] => .ok []
  | name :: names => do
    let value ← (shown.lookup name).getD (.error (.attributeMissing className name))
    let others ← fieldTexts className shown names
    return (name ++ '='.toNat :: value) :: others

/-- The fields that objects of a class are written with, if they are written by their fields. -/
def writtenFields? (classes : ClassTable) (className : Text) : Option (List Text) :=
  (classes.find? className).bind (·.writtenFields?)

mutual

/-- The text of a value inside another one. -/
def displayed (classes : ClassTable) : Value → Except Failure Text
  | null => .ok (Text.ofString "None")
  | undefined => .ok (Text.ofString "UNDEFINED")
  | bool value => .ok (Text.ofString (if value then "True" else "False"))
  | int value => integerText value
  | float value => .ok value.spelling
  | decimal value => .ok (Text.ofString "Decimal('" ++ value.text ++ Text.ofString "')")
  | fraction q => do
    return Text.enclosed "Fraction(" ")" [← integerText q.num, ← integerText q.den]
  | complex re im => .ok (complexText re im)
  | str text => .ok text.displayed
  | list items => (displayedItems classes items).map (Text.enclosed "[" "]")
  | tuple items => (displayedItems classes items).map Text.tuple
  | map entries => (displayedEntries classes entries).map (Text.enclosed "\x7b" "\x7d")
  | array cells => .ok cells.displayed
  | moment kind text => .ok (kind.displayed text)
  | regexp source => .ok (regexpText source)
  | function name => .ok (Text.ofString "<built-in function " ++ name ++ Text.ofString ">")
  | foreign name items => (displayedItems classes items).map (foreignText name items)
  | pass value => (displayed classes value).map fun t =>
      fieldsText (Text.ofString "Pass") [Text.ofString "value=" ++ t]
  | classRef name _ => .ok (classText classes name)
  | record name attributes =>
    match writtenFields? classes name with
    | some fields =>
      (fieldTexts name (displayedFields classes attributes) fields).map (fieldsText name)
    | none => .ok (objectText name)
  | namedTuple name components =>
    (fieldTexts name (displayedFields classes components)
      ((writtenFields? classes name).getD (components.map (·.1)))).map (fieldsText name)
  | derived name base attributes =>
    match writtenFields? classes name with
    | some fields =>
      (fieldTexts name (displayedFields classes attributes) fields).map (fieldsText name)
    | none => displayed classes base
  | mapping name _ => .ok (objectText name)

def displayedItems (classes : ClassTable) : List Value → Except Failure (List Text)
  | [] => .ok []
  | v :: others => do return (← displayed classes v) :: (← displayedItems classes others)

def displayedEntries (classes : ClassTable) : List (Value × Value) → Except Failure (List Text)
  | [] => .ok []
  | (key, value) :: others => do
    let entry := (← displayed classes key) ++ Text.ofString ": " ++ (← displayed classes value)
    return entry :: (← displayedEntries classes others)

def displayedFields (classes : ClassTable) : List (Text × Value) → List (Text × Except Failure Text)
  | [] => []
  | (name, value) :: others => (name, displayed classes value) :: displayedFields classes others

end

/-- The text of a value that stands alone. -/
def text (classes : ClassTable) (v : Value) : Except Failure Text :=
  match v.underlying with
  | str t => .ok t
  | decimal value => .ok value.text
  | fraction value => fractionText value
  | array cells => .ok cells.text
  | moment .datetime t => .ok (t.map fun c => if c = 'T'.toNat then ' '.toNat else c)
  | moment _ t => .ok t
  | foreign name _ =>
    if name = Text.ofString "timedelta" then .ok (Text.ofString "1 day, 0:00:00")
    else v.displayed classes
  | _ => v.displayed classes

end Value

end PatternDispatch
