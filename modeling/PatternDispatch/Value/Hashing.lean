import PatternDispatch.Value.Class

/-!
Which values can be keys. Lists and maps cannot, nor can objects that are compared by their
fields; a tuple can if all its elements can.
-/

namespace PatternDispatch.Value

/-- Whether objects of a class are compared by their fields. -/
def isComparedByFields (classes : ClassTable) (v : Value) : Bool :=
  (v.class? classes).any (·.dataFields?.isSome)

/-- Why a value that is no tuple cannot be a key. -/
def atomFault? (classes : ClassTable) (v : Value) : Option Misuse :=
  let isRefused : Bool :=
    match v.underlying with
    | list _ | map _ | mapping _ _ | array _ => true
    | foreign name _ => name == Text.ofString "set" || name == Text.ofString "deque"
    | _ => v.isComparedByFields classes
  match v.underlying with
  | decimal (.nan true _ _) => some .unhashableNaN
  | _ => if isRefused then some (.unhashable v.qualifiedTypeName) else none

mutual

/-- Why a value cannot be a key, judged by the first part that cannot be one. -/
def keyFault? (classes : ClassTable) : Value → Option Misuse
  | tuple items | derived _ (tuple items) _ => keyFaultOf? classes items
  | namedTuple _ components => componentFault? classes components
  | pass v => keyFault? classes v
  | v => v.atomFault? classes

def keyFaultOf? (classes : ClassTable) : List Value → Option Misuse
  | [] => none
  | v :: others => (keyFault? classes v).or (keyFaultOf? classes others)

def componentFault? (classes : ClassTable) : List (Text × Value) → Option Misuse
  | [] => none
  | (_, v) :: others => (keyFault? classes v).or (componentFault? classes others)

end

end PatternDispatch.Value
