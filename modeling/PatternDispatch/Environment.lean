import PatternDispatch.Cache
import PatternDispatch.Chain
import PatternDispatch.Variants

/-!
The environment in which patterns are compiled and dispatchers are built. A dispatcher is a chain
of alternatives. Building one adds alternatives from a source behind those of a given chain; what
was built, compiled or registered before a failure stays.
-/

namespace PatternDispatch

structure Environment where
  context : Context
  cache : Cache
  /-- The number of the next link of a chain. -/
  links : Nat

/-- What one alternative or a splice of alternatives is made from. A text is a pattern and a value
that can be called is a procedure; any other value is refused. -/
inductive Source (κ : Type) where
  | value (value : Value)
  | procedure (procedure : HandProcedure)
  | dispatcher (chain : Chain κ)

/-- What a dispatcher is defined by: one source, or a mapping whose sources carry their own
callbacks. -/
inductive Definition (κ : Type) where
  | source (source : Source κ)
  | mapping (entries : List (Source κ × Offer κ))

/-- Where and why a text is no pattern. -/
structure SyntaxError where
  reason : Text
  column : Nat
  source : Text
deriving DecidableEq, Repr

def SyntaxError.message (e : SyntaxError) : Text :=
  e.reason ++ Text.ofString " at column " ++ Text.ofNat e.column

variable {κ : Type}

namespace Source

def typeName : Source κ → Text
  | value v => v.typeName
  | procedure _ => Text.ofString "Proc"
  | dispatcher _ => Text.ofString "Dispatcher"

def value? : Source κ → Option Value
  | value v => some v
  | _ => none

/-- Whether two sources are one key of a mapping. Procedures are told apart even when their names
agree. -/
def isSameKey : Source κ → Source κ → Bool
  | value a, value b => Value.sameKey a b
  | dispatcher a, dispatcher b => a.isSame b
  | _, _ => false

end Source

namespace Definition

def insertEntry (source : Source κ) (callback : Offer κ) :
    List (Source κ × Offer κ) → List (Source κ × Offer κ)
  | [] => [(source, callback)]
  | entry :: entries =>
    if entry.1.isSameKey source then (entry.1, callback) :: entries
    else entry :: insertEntry source callback entries

/-- A mapping of entries given one by one, of which a later one replaces the callback of an earlier
one with the same key. -/
def ofEntries (entries : List (Source κ × Offer κ)) : Definition κ :=
  mapping (entries.foldl (fun found entry => insertEntry entry.1 entry.2 found) [])

/-- A value as a definition: the entries of a mapping, whose values serve as callbacks, or the value
as a source. -/
def ofValue (classes : ClassTable) (serve : Value → κ) (v : Value) : Definition κ :=
  match v.entries? with
  | some entries =>
    mapping (entries.map fun entry => (.value entry.1, Offer.ofValue classes serve entry.2))
  | none => source (.value v)

end Definition

namespace Environment

def ofContext (ctx : Context) : Environment := ⟨ctx, Cache.empty true, 0⟩

def onCache {α : Type} (step : Action Cache α) : Action Environment α :=
  Action.onPart (·.cache) (fun env cache => { env with cache := cache }) step

def onLinks {α : Type} (step : Action Nat α) : Action Environment α :=
  Action.onPart (·.links) (fun env links => { env with links := links }) step

def onExtractors {α : Type} (step : Action Extractors α) : Action Environment α :=
  Action.onPart (·.context.extractors)
    (fun env extractors => { env with context := { env.context with extractors := extractors } })
    step

def compile (text : Text) : Action Environment Compiled := onCache (Cache.compile text)

/-- Compiles a text and answers a syntax error as a value. -/
def compileWithErrors (text : Text) : Action Environment (Except SyntaxError Compiled) := fun env =>
  let ran := compile text env
  match ran.outcome.result with
  | .ok compiled => ⟨ran.state, ran.outcome.events, .ok (.ok compiled)⟩
  | .error (.malformed (.malformed reason cursor)) =>
    ⟨ran.state, ran.outcome.events, .ok (.error ⟨reason.text, cursor.column, cursor.source⟩)⟩
  | .error failure => ⟨ran.state, ran.outcome.events, .error failure⟩

/-- A single match: the captures of the text on the arguments, or nothing. -/
def extract (text : Text) (arguments : List Value) : Action Environment Match := do
  let compiled ← compile text
  Action.ofTraced (compiled.procedure.run (← Action.state).context arguments)

/-- Runs a dispatcher on arguments. -/
def dispatch (call : Calls κ) (chain : Chain κ) (arguments : List Value) :
    Action Environment Value := do
  Action.ofTraced (chain.run (← Action.state).context call arguments)

/-- One more alternative behind those of a chain, if one is given. -/
def build (chain : Option (Chain κ)) (alternative : Alternative κ) :
    Action Environment (Chain κ) := do
  let linked ← onLinks (match chain with
    | none => Chain.single alternative
    | some chain => chain.extend alternative)
  Action.note (.dispatcherBuilt linked.length)
  pure linked

/-- All alternatives of a dispatcher behind those of a chain. -/
def splice (chain : Option (Chain κ)) (other : Chain κ) : Action Environment (Chain κ) := do
  let combined ← onLinks (match chain with
    | none => pure other
    | some chain => chain.append other)
  let (front, last) ← onLinks combined.pop
  build front (last.links.head last.nonempty).alternative

/-- The rule that a source stands for. -/
def ruleOf : Source κ → Action Environment Rule
  | .value v => do
    let classes := (← Action.state).context.classes
    match v.text? with
    | some text => return .compiled (← compile text).procedure
    | none =>
      if v.isCallable classes then pure (.byHand (HandProcedure.ofValue classes v))
      else Action.fail (.notASource v.typeName)
  | .procedure procedure => pure (.byHand procedure)
  | .dispatcher chain => Action.fail (.notASource (Source.dispatcher chain).typeName)

/-- Why a source without a callback is refused. -/
def callbackFailure (source : Source κ) : Failure :=
  match source.value?.bind Value.text? with
  | some text => .callbackMissing text
  | none => .notAMatcher source.typeName source.value?

/-- Adds what one source stands for. The callback is looked at before the text is read. -/
def add (chain : Option (Chain κ)) (source : Source κ) (callback : Offer κ) :
    Action Environment (Chain κ) :=
  match source, callback with
  | .dispatcher other, .nothing => splice chain other
  | .dispatcher _, _ => Action.fail .splicedWithCallback
  | source, .nothing => Action.fail (callbackFailure source)
  | _, .other typeName => Action.fail (.callbackNotCallable typeName)
  | source, .function callback => do build chain ⟨← ruleOf source, callback⟩

/-- Adds the entries of a mapping one by one. -/
def addAll (chain : Option (Chain κ)) : List (Source κ × Offer κ) → Action Environment (Chain κ)
  | [] => Action.fail .emptyMapping
  | [entry] => add chain entry.1 entry.2
  | entry :: entries => do
    let next ← add chain entry.1 entry.2
    addAll (some next) entries

/-- Builds a dispatcher from a definition, behind the alternatives of a chain if one is given. -/
def pattern (chain : Option (Chain κ)) (definition : Definition κ) (callback : Offer κ) :
    Action Environment (Chain κ) :=
  match definition, callback with
  | .source source, callback => add chain source callback
  | .mapping entries, .nothing => addAll chain entries
  | .mapping _, _ => Action.fail .mappingWithCallback

/-- Matches arguments against a dispatcher or a mapping. -/
def matchOn (call : Calls κ) (arguments : List Value) (matcher : Definition κ) :
    Action Environment Value :=
  match matcher with
  | .mapping entries => do
    let chain ← addAll none entries
    dispatch call chain arguments
  | .source (.dispatcher chain) => dispatch call chain arguments
  | .source source => Action.fail (.notAMatcher source.typeName source.value?)

/-- Matches arguments against a matcher, which is the last argument if none is given apart. -/
def caseOf (call : Calls κ) (serve : Value → κ) (arguments : List Value)
    (matcher : Option (Definition κ)) : Action Environment Value :=
  match matcher, arguments.getLast? with
  | some matcher, _ => matchOn call arguments matcher
  | none, some last => do
    let classes := (← Action.state).context.classes
    matchOn call arguments.dropLast (Definition.ofValue classes serve last)
  | none, none => Action.fail .matcherMissing

/-- Replaces the sum types by others, or by none. -/
def useSumTypes (types? : Option SumTypes) : Action Environment Unit :=
  Action.change fun env => { env with context := { env.context with sumTypes? := types? } }

/-- Replaces the sum types by a table of the given names and classes, or by none. -/
def setSumTypes (types : Option (List (Text × List Text))) : Action Environment Unit := do
  let classes := (← Action.state).context.classes
  let ran : Ran Variants Unit := match types with
    | none => ⟨.empty, pure ()⟩
    | some types => Variants.registerAll classes types .empty
  Action.ofTraced ran.outcome
  useSumTypes (types.map fun _ => ran.state.sumTypes classes)

end Environment

end PatternDispatch
