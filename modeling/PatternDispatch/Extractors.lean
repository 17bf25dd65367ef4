import PatternDispatch.Action
import PatternDispatch.Offer
import PatternDispatch.Table

/-!
The table of named extractors. Only functions are entered; every other offer is refused and leaves
the table as it was. What an extractor answers depends on its argument alone.
-/

namespace PatternDispatch

/-- A function that looks at a value and wraps what it extracts. -/
structure Extractor where
  title : Text
  run : Value → Except Failure Value

abbrev Extractors := Table Extractor

namespace Extractors

def set (name : Text) (offer : Offer Extractor) : Action Extractors Unit :=
  match offer with
  | .function extractor => do
    Action.change (·.insert name extractor)
    Action.note (.extractorRegistered name)
  | _ => Action.fail (.extractorNotCallable name offer.typeName)

def get (name : Text) : Action Extractors Extractor := do
  match (← Action.state).find? name with
  | some extractor => pure extractor
  | none => Action.fail (.keyMissing name)

def delete (name : Text) : Action Extractors Unit := do
  let _ ← get name
  Action.change (·.erase name)

/-- Registers an offered function, or answers nothing when there is none to register. -/
def register (name : Text) (offer : Offer Extractor) : Action Extractors (Option (Offer Extractor)) :=
  match offer with
  | .nothing => pure none
  | offer => do
    set name offer
    pure (some offer)

/-- Registration of a function that is given later; here nothing is no function either. -/
def decorate (name : Text) (offer : Offer Extractor) : Action Extractors (Offer Extractor) := do
  set name offer
  pure offer

def unregister (name : Text) : Action Extractors (Option Extractor) := do
  match (← Action.state).find? name with
  | none => pure none
  | some extractor =>
    Action.change (·.erase name)
    Action.note (.extractorUnregistered name)
    pure (some extractor)

def pop (name : Text) : Action Extractors Extractor := do
  let extractor ← get name
  Action.change (·.erase name)
  pure extractor

/-- Takes an entry out, or answers what is given for the case that there is none. -/
def popOr (name : Text) (default : Offer Extractor) : Action Extractors (Offer Extractor) := do
  match (← Action.state).find? name with
  | none => pure default
  | some extractor =>
    Action.change (·.erase name)
    pure (.function extractor)

/-- Takes the oldest entry. -/
def popFirst : Action Extractors (Text × Extractor) := do
  match (← Action.state).entries with
  | [] => Action.fail .noMapEntry
  | entry :: _ =>
    Action.change (·.erase entry.1)
    pure entry

def setDefault (name : Text) (offer : Offer Extractor) : Action Extractors (Offer Extractor) := do
  match (← Action.state).find? name with
  | some extractor => pure (.function extractor)
  | none =>
    set name offer
    pure offer

/-- Sets entries one by one; those before a refused one stay. -/
def update : List (Text × Offer Extractor) → Action Extractors Unit
  | [] => pure ()
  | (name, offer) :: offers => do
    set name offer
    update offers

def clear : Action Extractors Unit := Action.setState .empty

/-- Calls the function registered under a name. -/
def call (extractors : Extractors) (name : Text) (value : Value) : Traced Value :=
  match extractors.find? name with
  | none => Traced.fail (.extractorMissing name)
  | some extractor => do
    Traced.note (.extractorCalled name extractor.title value)
    Traced.ofExcept (extractor.run value)

end Extractors

end PatternDispatch
