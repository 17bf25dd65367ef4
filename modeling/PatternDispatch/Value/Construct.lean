import PatternDispatch.Value.Convert

/-!
New objects of declared classes. The arguments are kept under names or are made into the contents,
according to the layout of the class.
-/

namespace PatternDispatch

namespace Value

/-- An integer where nothing else will do. -/
def asIndex (v : Value) : Except Failure Int :=
  match v.underlying with
  | bool value => .ok (if value then 1 else 0)
  | int value => .ok value
  | _ => .error (.misuse (.notAnInteger v.qualifiedTypeName))

/-- The integer that a text denotes in a radix; zero stands for the radix that the text marks. -/
def convertWithRadix (v radix : Value) : Except Failure Value := do
  let radix ← radix.asIndex
  if radix = 1 ∨ radix < 0 ∨ 36 < radix then
    .error (.valueError (Text.ofString "int() base must be >= 2 and <= 36, or 0"))
  else
    match v.readable? with
    | some (t, shown) => readInt radix.toNat t shown
    | none => .error (.misuse .radixWithoutText)

/-- The text of bytes in an encoding. The name of the encoding and what is to be done about faults
are texts; bytes of plain characters read the same in each of the encodings. -/
def decoded (v : Value) (parameters : List (String × Value)) : Except Failure Value := do
  for (name, parameter) in parameters do
    match parameter.text? with
    | none => throw (.misuse (.parameterNotText (Text.ofString name)
        (if parameter.isNull then Text.ofString "None" else parameter.qualifiedTypeName)))
    | some t => if t.contains 0 then throw (.valueError (Text.ofString "embedded null character"))
  match v.text?, v.readable? with
  | some _, _ => throw (.misuse .alreadyText)
  | none, some (t, _) =>
    let known := ["utf-8", "utf8", "UTF-8", "ascii", "latin-1", "latin1", "iso-8859-1"]
    let encoding := ((parameters.head?.bind (·.2.text?))).getD []
    if known.any fun name => Text.ofString name == encoding then return str t
    else
      throw (.raised (Text.ofString "LookupError") (Text.ofString "unknown encoding: " ++ encoding))
  | none, none => throw (.misuse (.notBytes v.qualifiedTypeName))

/-- The value of a built-in type that is made from several arguments. -/
def convertAll (target : BuiltIn) (v : Value) (others : List Value) : Except Failure Value :=
  let given := others.length + 1
  match target, others with
  | .int, [radix] => v.convertWithRadix radix
  | .int, _ => .error (.misuse (.argumentLimit target.name 2 given))
  | .text, [encoding] => v.decoded [("encoding", encoding)]
  | .text, [encoding, faults] => v.decoded [("encoding", encoding), ("errors", faults)]
  | .text, _ => .error (.misuse (.argumentLimit target.name 3 given))
  | _, _ => .error (.misuse (.contentsCount target.name given))

end Value

namespace Class

/-- Why arguments do not make an object. -/
def argumentFault? (c : Class) (arguments : List Value) : Option Misuse :=
  match c.strictMethod? with
  | none => none
  | some method =>
    let owner := c.name ++ '.'.toNat :: method
    if arguments.length < c.fields.length then
      some (.argumentsMissing owner (c.fields.drop arguments.length))
    else if c.fields.length < arguments.length then
      some (.argumentsLeft owner (c.fields.length + 1) (arguments.length + 1))
    else none

/-- The contents of a new object of a derived class. Those that are filled after they are made stay
empty in a class that keeps its arguments under names. -/
def contents (classes : ClassTable) (c : Class) (base : BuiltIn) :
    List Value → Except Failure Value
  | [] => .ok base.initial
  | v :: others =>
    if base.isMutable && !c.isFilled then .ok base.initial
    else if others.isEmpty then v.convert classes base
    else v.convertAll base others

/-- A new object; trailing arguments that are missing leave attributes absent. -/
def make (classes : ClassTable) (c : Class) (arguments : List Value) : Except Failure Value :=
  let attributes := c.fields.zip arguments
  match c.argumentFault? arguments with
  | some fault => .error (.misuse fault)
  | none =>
    match c.layout with
    | .record => .ok (.record c.name attributes)
    | .namedTuple => .ok (.namedTuple c.name attributes)
    | .derived base =>
      (c.contents classes base arguments).map fun v => .derived c.name v attributes
    | .mapping => .ok (.mapping c.name ((arguments.head?.bind Value.entries?).getD []))

end Class

end PatternDispatch
