import PatternDispatch.Cursor.ParseError
import PatternDispatch.Number.DecimalArithmetic
import PatternDispatch.Text.Display
import PatternDispatch.Value

/-!
The causes for which building, matching or dispatching stops, and their wording. What a function
supplied by the user raises is passed on as it is.
-/

namespace PatternDispatch

/-- Why a tree built by hand is no pattern that can run. -/
inductive StructureError where
  /-- A node of no kind has no spelling. -/
  | unspelled
  | misplaced (node : String)
  | lacksMember (node member : String)
deriving DecidableEq, Repr

/-- Why a value cannot be used in some way. -/
inductive Misuse where
  | notSubscriptable (typeName : Text)
  | classNotSubscriptable (name : Text)
  | notAPosition
  | unhashable (typeName : Text)
  | unhashableNaN
  | notIterable (typeName : Text)
  | scalarIteration
  | noLength (typeName : Text)
  | unsized
  | noMagnitude (typeName : Text)
  | notAddable (left right : Text)
  | notStretchable (left right : List Nat)
  | notOrdered (below : Bool) (typeName : Text)
  | notConvertible (target typeName : Text)
  | notScalar (rank : Nat)
  | notPair (message : Text)
  | argumentCount (function : Text) (given : Nat)
  | contentsCount (typeName : Text) (given : Nat)
  | argumentLimit (function : Text) (limit given : Nat)
  | notAnInteger (typeName : Text)
  | radixWithoutText
  | parameterNotText (parameter typeName : Text)
  | alreadyText
  | notBytes (typeName : Text)
  | argumentsMissing (method : Text) (names : List Text)
  | argumentsLeft (method : Text) (taken given : Nat)
deriving Repr

inductive Failure where
  | malformed (error : ParseError)
  | illFormed (error : StructureError)
  | comparison (error : Value.ComparisonError)
  | arithmetic (error : ArithmeticError)
  | extractorMissing (name : Text)
  | attributeMissing (typeName name : Text)
  | keyMissing (key : Text)
  | notCallable (typeName : Text)
  | misuse (error : Misuse)
  /-- A method is called on the class itself instead of on an object. -/
  | unboundMethod (className method : Text)
  | noSlots (typeName : Text)
  | slotOutOfRange
  | extractorNotCallable (name typeName : Text)
  | noMapEntry
  | exhausted (arguments : List Value)
  | notAMatcher (typeName : Text) (value : Option Value)
  | matcherMissing
  | splicedWithCallback
  | mappingWithCallback
  | emptyMapping
  | callbackMissing (pattern : Text)
  | callbackNotCallable (typeName : Text)
  | notASource (typeName : Text)
  | raised (kind message : Text)
deriving Repr

namespace StructureError

def message : StructureError → String
  | unspelled => ""
  | misplaced node => "Cannot compile " ++ node ++ " outside of a sequence or object pattern"
  | lacksMember node member => "'" ++ node ++ "' object has no attribute '" ++ member ++ "'"

end StructureError

namespace Misuse

private def words (s : String) : Text := Text.ofString s

private def quoted (t : Text) : Text := words "'" ++ t ++ words "'"

/-- Names in quotes as a list in a sentence. -/
def enumerated : List Text → Text
  | [] => []
  | [name] => quoted name
  | [a, b] => quoted a ++ words " and " ++ quoted b
  | names =>
    names.dropLast.flatMap (fun name => quoted name ++ words ", ") ++ words "and " ++
      quoted (names.getLastD [])

private def counted (count : Nat) (noun : String) : Text :=
  Text.ofNat count ++ words (if count = 1 then " " ++ noun else " " ++ noun ++ "s")

def message : Misuse → Text
  | notSubscriptable typeName => quoted typeName ++ words " object is not subscriptable"
  | classNotSubscriptable name => words "type " ++ quoted name ++ words " is not subscriptable"
  | notAPosition => words "sequence index must be integer, not 'slice'"
  | unhashable typeName => words "unhashable type: " ++ quoted typeName
  | unhashableNaN => words "Cannot hash a signaling NaN value"
  | notIterable typeName => quoted typeName ++ words " object is not iterable"
  | scalarIteration => words "iteration over a 0-d array"
  | unsized => words "len() of unsized object"
  | noLength typeName => words "object of type " ++ quoted typeName ++ words " has no len()"
  | noMagnitude typeName => words "bad operand type for abs(): " ++ quoted typeName
  | notAddable left right =>
    words "unsupported operand type(s) for +: " ++ quoted left ++ words " and " ++ quoted right
  | notStretchable left right =>
    let shape (lengths : List Nat) : Text := Text.tuple (lengths.map Text.ofNat)
    words "add got incompatible shapes for broadcasting: " ++ shape left ++ words ", " ++
      shape right ++ words "."
  | notScalar rank =>
    words "Only scalar arrays can be converted to Python scalars; got arr.ndim=" ++ Text.ofNat rank
  | notConvertible target typeName =>
    target ++ words "() argument must be a string" ++
      words (if target = words "int" then ", a bytes-like object" else "") ++
      words " or a real number, not " ++ quoted typeName
  | notOrdered below typeName =>
    words (if below then "'<'" else "'>'") ++ words " not supported between instances of " ++
      quoted typeName ++ words " and 'int'"
  | notPair message => message
  | argumentCount function given =>
    function ++ words "() takes exactly one argument (" ++ Text.ofNat given ++ words " given)"
  | contentsCount typeName given =>
    typeName ++ words " expected at most 1 argument, got " ++ Text.ofNat given
  | argumentLimit function limit given =>
    function ++ words "() takes at most " ++ Text.ofNat limit ++ words " arguments (" ++
      Text.ofNat given ++ words " given)"
  | notAnInteger typeName =>
    quoted typeName ++ words " object cannot be interpreted as an integer"
  | radixWithoutText => words "int() can't convert non-string with explicit base"
  | parameterNotText parameter typeName =>
    words "str() argument " ++ quoted parameter ++ words " must be str, not " ++ typeName
  | alreadyText => words "decoding str is not supported"
  | notBytes typeName =>
    words "decoding to str: need a bytes-like object, " ++ typeName ++ words " found"
  | argumentsMissing method names =>
    method ++ words "() missing " ++ counted names.length "required positional argument" ++
      words ": " ++ enumerated names
  | argumentsLeft method taken given =>
    method ++ words "() takes " ++ counted taken "positional argument" ++ words " but " ++
      Text.ofNat given ++ words (if given = 1 then " was given" else " were given")

end Misuse

namespace Failure

private def words (s : String) : Text := Text.ofString s

/-- The failure of a function that is given a value it has no use for. -/
def valueError (message : Text) : Failure := raised (words "ValueError") message

/-- The wording of a failure; a refused comparison and a missing result have none. -/
def message : Failure → Option Text
  | malformed error => some error.message
  | illFormed error => some (words error.message)
  | comparison _ | arithmetic _ => none
  | extractorMissing name => some (words "Extractor does not exist: " ++ name)
  | attributeMissing typeName name =>
    some (words "'" ++ typeName ++ words "' object has no attribute '" ++ name ++ words "'")
  | keyMissing key => some key.displayed
  | notCallable typeName => some (words "'" ++ typeName ++ words "' object is not callable")
  | misuse error => some error.message
  | unboundMethod className method =>
    some (className ++ words "." ++ method ++
      words "() missing 1 required positional argument: 'self'")
  | noSlots typeName =>
    some (typeName ++ words " exposes neither __match_args__ nor dataclass fields")
  | slotOutOfRange => some (words "tuple index out of range")
  | extractorNotCallable name typeName =>
    some (words "Extractor " ++ name.displayed ++ words " must be callable, got " ++ typeName)
  | noMapEntry => some []
  | exhausted _ => some (words "All patterns exhausted")
  | notAMatcher typeName _ => some (words "Not a matcher function: " ++ typeName)
  | matcherMissing => some (words "case_of() needs a matcher as its last argument")
  | splicedWithCallback => some (words "A dispatcher is spliced without a callback")
  | mappingWithCallback => some (words "A pattern mapping carries its own callbacks")
  | emptyMapping => some (words "Pattern mapping has no alternatives")
  | callbackMissing pattern =>
    some (words "Pattern " ++ pattern.displayed ++ words " needs a callback")
  | callbackNotCallable typeName => some (words "Callback must be callable, got " ++ typeName)
  | notASource typeName => some (words "Cannot build a pattern from " ++ typeName)
  | raised _ message => some message

end Failure

end PatternDispatch
