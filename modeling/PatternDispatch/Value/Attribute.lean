import PatternDispatch.Value.Class

/-!
What is found under a name on an object: what it holds itself, else what its class and the classes
above it share, else what its built-in type offers.
-/

namespace PatternDispatch.Value

/-- A method of a built-in type bound to a value. -/
def builtInMethod : Value := foreign (Text.ofString "builtin_function_or_method") []

/-- The names of the methods that every object has. -/
def commonNames : List String :=
  ["__delattr__", "__dir__", "__eq__", "__format__", "__ge__", "__getattribute__", "__getstate__",
    "__gt__", "__hash__", "__init__", "__init_subclass__", "__le__", "__lt__", "__ne__", "__new__",
    "__reduce__", "__reduce_ex__", "__repr__", "__setattr__", "__sizeof__", "__str__",
    "__subclasshook__"]

/-- The names of the methods that every value with items has. -/
def containerNames (v : Value) : List String :=
  if v.items?.isSome then ["__contains__", "__getitem__", "__iter__", "__len__"] else []

/-- The parts of a number that have names. -/
def numberParts : Value → List (String × Value)
  | int value =>
    [("real", int value), ("imag", int 0), ("numerator", int value), ("denominator", int 1)]
  | float value => [("real", float value), ("imag", float (Binary.ofInt _ 0))]
  | _ => []

/-- The names of the methods of a built-in type. -/
def methodNames : Value → List String
  | int _ =>
    ["as_integer_ratio", "bit_count", "bit_length", "conjugate", "from_bytes", "to_bytes"]
  | float _ => ["as_integer_ratio", "conjugate", "fromhex", "hex", "is_integer"]
  | str _ =>
    ["capitalize", "casefold", "center", "count", "encode", "endswith", "expandtabs", "find",
      "format", "format_map", "index", "isalnum", "isalpha", "isascii", "isdecimal", "isdigit",
      "isidentifier", "islower", "isnumeric", "isprintable", "isspace", "istitle", "isupper",
      "join", "ljust", "lower", "lstrip", "maketrans", "partition", "removeprefix",
      "removesuffix", "replace", "rfind", "rindex", "rjust", "rpartition", "rsplit", "rstrip",
      "split", "splitlines", "startswith", "strip", "swapcase", "title", "translate", "upper",
      "zfill"]
  | list _ =>
    ["append", "clear", "copy", "count", "extend", "index", "insert", "pop", "remove", "reverse",
      "sort"]
  | tuple _ | namedTuple _ _ => ["count", "index"]
  | map _ =>
    ["clear", "copy", "fromkeys", "get", "items", "keys", "pop", "popitem", "setdefault",
      "update", "values"]
  | mapping _ _ => ["get", "items", "keys", "values"]
  | _ => []

/-- The attributes of an object as a map, if it keeps them in one. -/
def attributeMap? : Value → Option Value
  | record _ fields | derived _ _ fields => some (mapOf (fields.map fun (n, v) => (str n, v)))
  | pass value => some (map [(str (Text.ofString "value"), value)])
  | _ => none

/-- What the type of a value offers under a name. -/
def builtInAttribute? (classes : ClassTable) (v : Value) (name : Text) : Option Value :=
  let isNamed (word : String) : Bool := name == Text.ofString word
  if isNamed "__dict__" then v.attributeMap?
  else if isNamed "__class__" then some (classes.reference v.typeName)
  else if isNamed "__doc__" then some null
  else
    match (numberParts v.underlying).find? fun part => isNamed part.1 with
    | some part => some part.2
    | none =>
      let names := methodNames v.underlying ++ v.containerNames ++ commonNames
      if names.any isNamed then some builtInMethod else none

def attribute? (classes : ClassTable) (v : Value) (name : Text) : Option Value :=
  (v.attributes.lookup name).or
    (((v.class? classes).bind fun c => c.shared.lookup name).or (v.builtInAttribute? classes name))

def getAttribute (classes : ClassTable) (v : Value) : AttributeReader := fun name =>
  match v.attribute? classes name with
  | some value => .ok value
  | none => .error (.attributeMissing v.typeName name)

def getAttributes (classes : ClassTable) (v : Value) (names : List Text) :
    Except Failure (List Value) := AttributeReader.list (v.getAttribute classes) names

/-- The attributes of the given names as a map. -/
def fieldMap (classes : ClassTable) (v : Value) (names : List Text) : Except Failure Value :=
  AttributeReader.map (v.getAttribute classes) names

/-- Applies a hook to an object. -/
def applyHook (classes : ClassTable) (hook : Hook) (v : Value) : Except Failure Value :=
  hook v (v.getAttribute classes)

end PatternDispatch.Value
