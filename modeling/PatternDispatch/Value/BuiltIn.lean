import PatternDispatch.Value

/-! The built-in types that classes derive from. -/

namespace PatternDispatch

inductive BuiltIn where
  | list
  | tuple
  | map
  | text
  | int
  | float
deriving DecidableEq, Repr

namespace BuiltIn

def name : BuiltIn → Text
  | list => Text.ofString "list"
  | tuple => Text.ofString "tuple"
  | map => Text.ofString "dict"
  | text => Text.ofString "str"
  | int => Text.ofString "int"
  | float => Text.ofString "float"

/-- The value of the type that nothing is given for. -/
def initial : BuiltIn → Value
  | list => .list []
  | tuple => .tuple []
  | map => .map []
  | text => .str []
  | int => .int 0
  | float => .float (Binary.ofInt _ 0)

/-- Whether values of the type are filled after they are made. -/
def isMutable : BuiltIn → Bool
  | list | map => true
  | _ => false

end BuiltIn

end PatternDispatch
