import PatternDispatch.Action
import PatternDispatch.Procedure

/-!
Chains of alternatives, of which the first that matches is taken. A chain is never changed: to
extend it is to copy its links in front of the new end, so everyone who holds a chain keeps its
alternatives. Callbacks are opaque here; what calling one does is a parameter of a run. A procedure
written by hand is a function of the arguments, and a whole run has one context.
-/

namespace PatternDispatch

/-- A procedure written by hand. -/
structure HandProcedure where
  name : Text
  run : List Value → Except Failure Match

/-- A value that can be called as a procedure: what it yields on the tuple of the arguments. -/
def HandProcedure.ofValue (classes : ClassTable) (callee : Value) : HandProcedure where
  name := callee.typeName
  run arguments :=
    match callee.call classes [.tuple arguments] with
    | .error failure => .error failure
    | .ok .null => .ok none
    | .ok found => found.itemsOf.map some

/-- What decides whether an alternative is taken, and with which captures. -/
inductive Rule where
  | compiled (procedure : Procedure)
  | byHand (procedure : HandProcedure)

namespace Rule

/-- How a rule is named in the log. -/
def title : Rule → Text
  | compiled procedure => procedure.canonical
  | byHand procedure => Text.ofString "<proc " ++ procedure.name ++ Text.ofString ">"

def run (ctx : Context) (arguments : List Value) : Rule → Traced Match
  | compiled procedure => procedure.run ctx arguments
  | byHand procedure => do
    Traced.note (.procedureCalled procedure.name arguments)
    Traced.ofExcept (procedure.run arguments)

end Rule

structure Alternative (κ : Type) where
  rule : Rule
  callback : κ

/-- A place in a chain. Copies are numbered anew, so that a shared end of two chains can be told
from an equal one. -/
structure Link (κ : Type) where
  number : Nat
  alternative : Alternative κ

structure Chain (κ : Type) where
  links : List (Link κ)
  nonempty : links ≠ []

/-- What calling a callback with the captures does. -/
abbrev Calls (κ : Type) := κ → List Value → Traced Value

variable {κ : Type}

/-- The alternatives in order, numbered from `first` on. -/
def Link.numbered (first : Nat) : List (Alternative κ) → List (Link κ)
  | [] => []
  | alternative :: others => ⟨first, alternative⟩ :: numbered (first + 1) others

theorem Link.numbered_ne_nil {first : Nat} {alternatives : List (Alternative κ)}
    (nonempty : alternatives ≠ []) : numbered first alternatives ≠ [] := by
  cases alternatives with
  | nil => exact absurd rfl nonempty
  | cons => simp [numbered]

theorem Link.map_numbered (first : Nat) (alternatives : List (Alternative κ)) :
    (numbered first alternatives).map (·.alternative) = alternatives := by
  induction alternatives generalizing first with
  | nil => rfl
  | cons _ _ ih => simp [numbered, ih]

namespace Chain

def alternatives (c : Chain κ) : List (Alternative κ) := c.links.map (·.alternative)

theorem alternatives_ne_nil (c : Chain κ) : c.alternatives ≠ [] := by
  simpa [alternatives] using c.nonempty

def length (c : Chain κ) : Nat := c.links.length

def ofLinks? (links : List (Link κ)) : Option (Chain κ) :=
  match links with
  | [] => none
  | link :: others => some ⟨link :: others, by simp⟩

/-- The chain that is left after so many alternatives. -/
def drop? (c : Chain κ) (count : Nat) : Option (Chain κ) := ofLinks? (c.links.drop count)

/-- The last alternative alone. -/
def last (c : Chain κ) : Chain κ := ⟨[c.links.getLast c.nonempty], by simp⟩

/-- Whether two chains are one and the same, not merely equal. -/
def isSame (a b : Chain κ) : Bool :=
  (a.links.head a.nonempty).number == (b.links.head b.nonempty).number

/-- Fresh links for alternatives. The state of the action is the next unused number. -/
def link (alternatives : List (Alternative κ)) : Action Nat (List (Link κ)) := do
  let first ← Action.state
  Action.setState (first + alternatives.length)
  pure (Link.numbered first alternatives)

/-- A chain of one alternative. -/
def single (alternative : Alternative κ) : Action Nat (Chain κ) := do
  let number ← Action.state
  Action.setState (number + 1)
  pure ⟨[⟨number, alternative⟩], by simp⟩

/-- Copies of the links of one chain in front of another, which becomes a part of the result. -/
def append (c other : Chain κ) : Action Nat (Chain κ) := do
  let links ← link c.alternatives
  pure ⟨links ++ other.links, by simp [other.nonempty]⟩

def extend (c : Chain κ) (alternative : Alternative κ) : Action Nat (Chain κ) := do
  c.append (← single alternative)

/-- A copy that shares no link with the chain. -/
def clone (c : Chain κ) : Action Nat (Chain κ) := do
  let first ← Action.state
  Action.setState (first + c.length)
  pure ⟨Link.numbered first c.alternatives, Link.numbered_ne_nil c.alternatives_ne_nil⟩

/-- A copy of all but the last alternative, if there is any, and the last one as it stands. -/
def pop (c : Chain κ) : Action Nat (Option (Chain κ) × Chain κ) := do
  let links ← link c.alternatives.dropLast
  pure (ofLinks? links, c.last)

theorem alternatives_append {c other made : Chain κ} {first : Nat}
    (built : (c.append other first).outcome.result = .ok made) :
    made.alternatives = c.alternatives ++ other.alternatives := by
  obtain rfl := Except.ok.inj built
  simp [alternatives, Link.map_numbered]

theorem alternatives_clone {c made : Chain κ} {first : Nat}
    (built : (c.clone first).outcome.result = .ok made) :
    made.alternatives = c.alternatives := by
  obtain rfl := Except.ok.inj built
  exact Link.map_numbered first c.alternatives

/-- Tries alternatives in order, counting positions from `position` on. The first match decides,
also when its captures are none or its callback fails. -/
def tryFrom (ctx : Context) (call : Calls κ) (arguments : List Value) (position : Nat) :
    List (Alternative κ) → Traced Value
  | [] => Traced.fail (.exhausted arguments)
  | alternative :: others => do
    let found ← alternative.rule.run ctx arguments
    Traced.note (.alternativeTried position alternative.rule.title found.isSome)
    match found with
    | none => tryFrom ctx call arguments (position + 1) others
    | some captures =>
      Traced.note (.callbackCalled position captures)
      call alternative.callback captures

def run (ctx : Context) (call : Calls κ) (c : Chain κ) (arguments : List Value) : Traced Value :=
  tryFrom ctx call arguments 0 c.alternatives

end Chain

end PatternDispatch
