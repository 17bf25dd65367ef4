import PatternDispatch.Matching
import PatternDispatch.Pattern.Parser
import PatternDispatch.Pattern.Canonical

/-!
Compiled patterns. Compiling checks the whole tree before anything runs: every node must stand
where it can be matched. A pattern read from text always passes; only trees built by hand fail.
-/

namespace PatternDispatch

namespace Pattern

def misplaced (p : Pattern) : Option StructureError := some (.misplaced p.nodeName)

/-- An object item without a name to look up, or with nothing to match under it. -/
def fieldFault? (item : Pattern) : Option StructureError :=
  if item.isRest then none
  else match Matching.fieldName? item with
    | none => some (.lacksMember item.nodeName "name")
    | some _ => none

mutual

/-- The first fault of a pattern, in the order in which its parts are compiled. -/
def fault? : Pattern → Option StructureError
  | binder _ inner | extractorOf _ inner => inner.fault?
  | array items | argumentList items | tagArray _ items =>
    (itemFault? false items).or (restFault? items)
  | object items | tagObject _ items => (items.findSome? fieldFault?).or (fieldFaults? items)
  | rest inner => misplaced (rest inner)
  | key name => misplaced (key name)
  | keyValue name inner => misplaced (keyValue name inner)
  | blank => misplaced blank
  | _ => none

/-- The items before and behind the first rest; a second rest is misplaced. -/
def itemFault? (passedRest : Bool) : List Pattern → Option StructureError
  | [] => none
  | rest inner :: items =>
    if passedRest then misplaced (rest inner) else itemFault? true items
  | item :: items => item.fault?.or (itemFault? passedRest items)

/-- What the first rest holds. -/
def restFault? : List Pattern → Option StructureError
  | [] => none
  | rest inner :: _ => inner.fault?
  | _ :: items => restFault? items

def fieldFaults? : List Pattern → Option StructureError
  | [] => none
  | rest _ :: items | key _ :: items => fieldFaults? items
  | keyValue _ inner :: items | binder _ inner :: items | extractorOf _ inner :: items =>
    inner.fault?.or (fieldFaults? items)
  | tagArray _ inner :: items =>
    ((itemFault? false inner).or (restFault? inner)).or (fieldFaults? items)
  | tagObject _ inner :: items =>
    ((inner.findSome? fieldFault?).or (fieldFaults? inner)).or (fieldFaults? items)
  | tag _ :: _ | extractor _ :: _ => some (.misplaced "NoneType")
  | item :: _ => some (.lacksMember item.nodeName "pattern")

end

/-- The items of a node that can stand at the root. -/
def rootItems? : Pattern → Option (List Pattern)
  | argumentList items | array items | object items => some items
  | _ => none

end Pattern

/-- A compiled argument list with the spelling that identifies it and the number of its
captures. -/
structure Procedure where
  canonical : Text
  arity : Nat
  items : List Pattern

namespace Procedure

def ofTree (tree : Pattern) : Except StructureError Procedure :=
  if tree.isConcrete then
    match tree.rootItems? with
    | none => .error (.lacksMember tree.nodeName "items")
    | some items =>
      match (Pattern.array items).fault? with
      | some fault => .error fault
      | none => .ok ⟨tree.canonical, tree.captureCount, items⟩
  else .error .unspelled

/-- A compiled tree keeps its spelling and the number of its captures. -/
theorem labels_ofTree {tree : Pattern} {p : Procedure} (compiles : ofTree tree = .ok p) :
    p.canonical = tree.canonical ∧ p.arity = tree.captureCount := by
  unfold ofTree at compiles
  split at compiles
  · split at compiles
    · cases compiles
    · split at compiles
      · cases compiles
      · cases compiles
        exact ⟨rfl, rfl⟩
  · cases compiles

/-- Procedures are the same when they have the same spelling and as many captures. -/
def sameAs (a b : Procedure) : Bool := a.canonical == b.canonical && a.arity == b.arity

def run (ctx : Context) (p : Procedure) (arguments : List Value) : Traced Match :=
  Matching.run ctx (.argumentList p.items) (.tuple arguments)

/-- Reads and compiles pattern text. -/
def ofText (text : Text) : Except Failure Procedure :=
  match Pattern.Parser.parse text with
  | .error error => .error (.malformed error)
  | .ok tree =>
    match ofTree tree with
    | .error error => .error (.illFormed error)
    | .ok procedure => .ok procedure

end Procedure

end PatternDispatch
