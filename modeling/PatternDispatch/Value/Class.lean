import PatternDispatch.Table
import PatternDispatch.Failure
import PatternDispatch.Value.BuiltIn
import PatternDispatch.Value.Key

/-!
Declared classes with what they inherit already resolved: the attributes that patterns consult are
looked up on a class, and a class that does not set one has its base's. A class is known by its
name, and its objects are those made from it or from a class that derives from it. A hook is a
function of the object: what it answers depends on nothing else.
-/

namespace PatternDispatch

/-- Reads an attribute, which may be absent. -/
abbrev AttributeReader := Text → Except Failure Value

namespace AttributeReader

def list (read : AttributeReader) : List Text → Except Failure (List Value)
  | [] => .ok []
  | name :: names =>
    match read name with
    | .error failure => .error failure
    | .ok value =>
      match list read names with
      | .error failure => .error failure
      | .ok values => .ok (value :: values)

/-- The attributes of the given names as a map. -/
def map (read : AttributeReader) (names : List Text) : Except Failure Value :=
  (list read names).map fun values => Value.mapOf ((names.map Value.str).zip values)

end AttributeReader

/-- A hook of a class, applied to an object and to what reads the attributes of the object. -/
abbrev Hook := Value → AttributeReader → Except Failure Value

/-- How objects of a class hold their contents. -/
inductive Layout where
  | record
  | namedTuple
  | derived (base : BuiltIn)
  | mapping
deriving DecidableEq, Repr

/-- The method that lists the fields of an object by name. -/
inductive FieldsMethod where
  | generated
  | hook (run : Hook)

structure Class where
  name : Text
  /-- The class itself and all classes it derives from. -/
  lineage : List Text
  layout : Layout
  /-- The names under which the class and all classes it derives from keep values. -/
  members : List Text
  /-- The names under which the arguments of a new object are kept. -/
  fields : List Text
  /-- The method that insists on a value for every field, if there is one. -/
  strictMethod? : Option Text
  /-- The second name a class goes by in patterns. -/
  secondName? : Option Text
  /-- The fields of a data class. -/
  dataFields? : Option (List Text)
  /-- The fields that objects are written with, if they are written by their fields. -/
  writtenFields? : Option (List Text)
  /-- The attributes that stand for the positional components. -/
  matchArgs? : Option (List Text)
  isCallable : Bool
  positionalHook? : Option Hook
  keyedHook? : Option Hook
  /-- The fields method and the class that defines it. -/
  asFields? : Option (Text × FieldsMethod)
  /-- Whether the contents of a new object are made from its arguments in every case. -/
  isFilled : Bool
  /-- What objects find on the class, the own settings of the class before inherited ones. -/
  shared : List (Text × Value)

/-- An attribute a declaration leaves alone, takes away or sets. -/
abbrev Setting (α : Type) := Option (Option α)

namespace Setting

variable {α : Type}

def resolve (own : Setting α) (inherited : Option α) : Option α := own.getD inherited

/-- What is found under a name that a setting takes away or sets. -/
def entry (own : Setting α) (name : String) (value : α → Value) : List (Text × Value) :=
  own.toList.map fun set => (Text.ofString name, (set.map value).getD .null)

end Setting

structure ClassDeclaration where
  name : Text
  base? : Option Text
  /-- Left out by a class that takes over the layout of its base. -/
  layout? : Option Layout
  isData : Bool
  fields : List Text
  secondName : Setting Text
  matchArgs : Setting (List Text)
  omitsMatchArgs : Bool
  isCallable : Bool
  positionalHook : Setting Hook
  keyedHook : Setting Hook
  asFields : Setting Hook

abbrev ClassTable := Table Class

/-- A method bound to an object. -/
def Value.method : Value := foreign (Text.ofString "method") []

namespace ClassDeclaration

def isNamedTuple (d : ClassDeclaration) : Bool := d.layout? == some .namedTuple

/-- The fields of the base first, each name once. -/
def allFields (d : ClassDeclaration) (inherited : List Text) : List Text :=
  inherited ++ d.fields.filter (· ∉ inherited)

/-- A field of a tuple with names stands on the class as a getter, which is no function. -/
def getterHook (d : ClassDeclaration) (name : String) : Option Hook :=
  if d.isNamedTuple && d.fields.contains (Text.ofString name) then
    some fun _ _ => .error (.notCallable (Text.ofString "_collections._tuplegetter"))
  else none

/-- The names of the positional components that a declaration brings about by itself. -/
def generatedArgs? (d : ClassDeclaration) (dataFields : List Text) : Option (List Text) :=
  if d.isData && !d.omitsMatchArgs then some dataFields
  else if d.isNamedTuple then some d.fields
  else none

def shared (d : ClassDeclaration) (dataFields : List Text) : List (Text × Value) :=
  let names (items : List Text) : Value := .tuple (items.map .str)
  let given := d.matchArgs.or ((d.generatedArgs? dataFields).map some)
  let method (setting : Setting Hook) (name : String) := setting.entry name fun _ => Value.method
  Setting.entry d.secondName "class_name" .str ++ Setting.entry given "__match_args__" names ++
    method d.positionalHook "unapply" ++ method d.keyedHook "unapply_mapping" ++
    method d.asFields "_asdict" ++
    if d.isNamedTuple then
      [(Text.ofString "_fields", names d.fields), (Text.ofString "_field_defaults", .map []),
        (Text.ofString "_asdict", .method), (Text.ofString "_replace", .method),
        (Text.ofString "_make", .method)]
    else []

def resolve (d : ClassDeclaration) (base : Option Class) : Class :=
  let members := d.allFields ((base.map (·.members)).getD [])
  let inheritedData := base.bind (·.dataFields?)
  let dataFields := d.allFields (inheritedData.getD [])
  let inheritedArgs := (d.generatedArgs? dataFields).or (base.bind (·.matchArgs?))
  let generatedMethod :=
    if d.isNamedTuple then some (d.name, FieldsMethod.generated) else base.bind (·.asFields?)
  let inheritedName :=
    if (d.getterHook "class_name").isSome then none else base.bind (·.secondName?)
  { name := d.name
    lineage := d.name :: (base.map (·.lineage)).getD []
    layout := d.layout?.getD ((base.map (·.layout)).getD .record)
    members := members
    fields :=
      if d.isData then dataFields
      else if d.isNamedTuple then d.fields
      else if d.layout?.isNone then members
      else []
    strictMethod? :=
      if d.isData then some (Text.ofString "__init__")
      else if d.isNamedTuple then some (Text.ofString "__new__")
      else none
    secondName? := Setting.resolve d.secondName inheritedName
    dataFields? := if d.isData then some dataFields else inheritedData
    writtenFields? :=
      if d.isData then some dataFields
      else if d.layout?.isSome then none
      else base.bind (·.writtenFields?)
    matchArgs? := Setting.resolve d.matchArgs inheritedArgs
    isCallable := d.isCallable || (base.map (·.isCallable)).getD false
    positionalHook? := Setting.resolve d.positionalHook
      ((d.getterHook "unapply").or (base.bind (·.positionalHook?)))
    keyedHook? := Setting.resolve d.keyedHook
      ((d.getterHook "unapply_mapping").or (base.bind (·.keyedHook?)))
    asFields? := Setting.resolve (d.asFields.map fun own => own.map fun hook =>
      (d.name, FieldsMethod.hook hook)) generatedMethod
    isFilled := d.layout?.isSome && base.all fun c => c.isFilled || c.layout == .record
    shared := d.shared dataFields ++ (base.map (·.shared)).getD [] }

end ClassDeclaration

namespace Class

/-- A class no longer derives from one whose name another class has taken. -/
def disown (name : Text) (c : Class) : Class :=
  { c with lineage := c.lineage.filter (· ≠ name) }

end Class

namespace ClassTable

def declare (classes : ClassTable) (d : ClassDeclaration) : ClassTable :=
  let made := d.resolve (d.base?.bind classes.find?)
  let others : ClassTable := ⟨classes.entries.map fun entry => (entry.1, entry.2.disown d.name)⟩
  others.insert d.name made

end ClassTable

namespace ClassTable

/-- A class of the table as a value. -/
def reference (classes : ClassTable) (name : Text) : Value :=
  .classRef name (Text.ofString
    (if (classes.find? name).any (·.layout == .mapping) then "ABCMeta" else "type"))

end ClassTable

namespace Value

def class? (classes : ClassTable) (v : Value) : Option Class := v.className?.bind classes.find?

def isCallable (classes : ClassTable) (v : Value) : Bool :=
  match v with
  | function _ | classRef _ _ => true
  | foreign name _ =>
    name == Text.ofString "method" || name == Text.ofString "builtin_function_or_method"
  | v => ((v.class? classes).map (·.isCallable)).getD false

/-- The names of the slots of the type of a value, in order. -/
def slotNames? (classes : ClassTable) (v : Value) : Option (List Text) :=
  match v with
  | pass _ => some [Text.ofString "value"]
  | v =>
    match v.class? classes with
    | none => none
    | some c => c.matchArgs?.or c.dataFields?

end Value

end PatternDispatch
