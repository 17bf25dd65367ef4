import Mathlib.Data.List.Sort
import PatternDispatch.Extractors

/-!
The table of extractors is a map in the order of insertion. A ledger keeps of every name the
function that is entered under it and the time of its entry, which a new function does not change.
What a call does to a ledger is said without any order; the table answers every call as the ledger
does, failures among them, and lists the names by their times. A ledger is listed by one table only,
so this settles the order of the table as well.
-/

namespace PatternDispatch

/-- The keys and what is found under them are all of a table. -/
theorem Table.entries_eq {α : Type} {t : Table α} (nodup : t.keys.Nodup) :
    t.entries = t.keys.filterMap fun key => (t.find? key).map fun value => (key, value) := by
  have found : ∀ entry ∈ t.entries,
      (t.find? entry.1).map (fun value => (entry.1, value)) = some entry := fun entry member => by
    rw [find?_of_mem nodup member]
    rfl
  rw [keys, List.filterMap_map]
  exact ((List.filterMap_congr found).trans List.filterMap_some).symm

namespace Extractors

/-! ## Calls -/

/-- The ways to offer something under a name. -/
inductive Offering where
  | set
  | register
  | decorate
  /-- Only a name without a function takes the offer. -/
  | setDefault
deriving DecidableEq

/-- The ways to take out what is entered under a name. -/
inductive Taking where
  | delete
  | unregister
  | pop
  /-- The default is answered for a name without a function. -/
  | popOr (default : Offer Extractor)

/-- A call of the table. Looking a function up and applying it are the calls that change nothing. -/
inductive Call where
  | offer (way : Offering) (name : Text) (offer : Offer Extractor)
  | take (way : Taking) (name : Text)
  | takeFirst
  | update (offers : List (Text × Offer Extractor))
  | clear
  | get (name : Text)
  | apply (name : Text) (value : Value)

inductive Answer where
  | nothing
  | given (offer : Offer Extractor)
  | entry (name : Text) (extractor : Extractor)
  | value (value : Value)

def Offering.run (name : Text) (offer : Offer Extractor) : Offering → Action Extractors Answer
  | set => do
    Extractors.set name offer
    pure .nothing
  | register => do
    match ← Extractors.register name offer with
    | some given => pure (.given given)
    | none => pure .nothing
  | decorate => do return .given (← Extractors.decorate name offer)
  | setDefault => do return .given (← Extractors.setDefault name offer)

def Taking.run (name : Text) : Taking → Action Extractors Answer
  | delete => do
    Extractors.delete name
    pure .nothing
  | unregister => do
    match ← Extractors.unregister name with
    | some found => pure (.given (.function found))
    | none => pure .nothing
  | pop => do return .given (.function (← Extractors.pop name))
  | popOr default => do return .given (← Extractors.popOr name default)

def Call.run : Call → Action Extractors Answer
  | offer way name given => way.run name given
  | take way name => way.run name
  | takeFirst => do
    let (name, extractor) ← popFirst
    pure (.entry name extractor)
  | update offers => do
    Extractors.update offers
    pure .nothing
  | clear => do
    Extractors.clear
    pure .nothing
  | get name => do return .given (.function (← Extractors.get name))
  | apply name value => do
    return .value (← Action.ofTraced ((← Action.state).call name value))

/-- The answers of calls made one after the other. A failure does not keep the next call from being
made. -/
def answers : List Call → Extractors → List (Except Failure Answer)
  | [], _ => []
  | call :: calls, table =>
    (call.run table).outcome.result :: answers calls (call.run table).state

def after (calls : List Call) (table : Extractors) : Extractors :=
  calls.foldl (fun table call => (call.run table).state) table

/-! ## Ledgers -/

/-- The functions under their names and the times at which the names were entered. -/
structure Ledger where
  function? : Text → Option Extractor
  time : Text → Nat
  clock : Nat

namespace Ledger

def empty : Ledger := ⟨fun _ => none, fun _ => 0, 0⟩

/-- A name that has a function keeps its time. -/
def enter (l : Ledger) (name : Text) (extractor : Extractor) : Ledger where
  function? other := if other = name then some extractor else l.function? other
  time other := if other = name ∧ l.function? name = none then l.clock else l.time other
  clock := l.clock + 1

def enterAll (l : Ledger) (entries : List (Text × Extractor)) : Ledger :=
  entries.foldl (fun l entry => l.enter entry.1 entry.2) l

def remove (l : Ledger) (name : Text) : Ledger :=
  { l with function? := fun other => if other = name then none else l.function? other }

def cleared (l : Ledger) : Ledger := { l with function? := fun _ => none }

def IsOldest (l : Ledger) (name : Text) (extractor : Extractor) : Prop :=
  l.function? name = some extractor ∧
    ∀ other, l.function? other ≠ none → l.time name ≤ l.time other

end Ledger

/-- What is offered is no function. -/
def Uncallable (offer : Offer Extractor) : Prop := ∀ extractor, offer ≠ .function extractor

def Offering.answer : Offering → Offer Extractor → Answer
  | set, _ => .nothing
  | _, offer => .given offer

def Taking.found : Taking → Extractor → Answer
  | delete, _ => .nothing
  | _, extractor => .given (.function extractor)

def Taking.missing (name : Text) : Taking → Except Failure Answer
  | delete | pop => .error (.keyMissing name)
  | unregister => .ok .nothing
  | popOr default => .ok (.given default)

/-- Functions as they are offered. -/
def offered (entries : List (Text × Extractor)) : List (Text × Offer Extractor) :=
  entries.map fun entry => (entry.1, .function entry.2)

/-- What a call does to a ledger. -/
inductive Ledger.Does (l : Ledger) : Call → Except Failure Answer → Ledger → Prop where
  | entered (way : Offering) {name : Text} (extractor : Extractor)
      (free : way = .setDefault → l.function? name = none) :
      Does l (.offer way name (.function extractor)) (.ok (way.answer (.function extractor)))
        (l.enter name extractor)
  | refused (way : Offering) {name : Text} {offer : Offer Extractor} (uncallable : Uncallable offer)
      (free : way = .setDefault → l.function? name = none)
      (given : way = .register → offer ≠ .nothing) :
      Does l (.offer way name offer) (.error (.extractorNotCallable name offer.typeName)) l
  /-- Registering nothing is the promise to register a function later. -/
  | promised (name : Text) : Does l (.offer .register name .nothing) (.ok .nothing) l
  | taken {name : Text} {extractor : Extractor} (known : l.function? name = some extractor)
      (offer : Offer Extractor) :
      Does l (.offer .setDefault name offer) (.ok (.given (.function extractor))) l
  | removed (way : Taking) {name : Text} {extractor : Extractor}
      (known : l.function? name = some extractor) :
      Does l (.take way name) (.ok (way.found extractor)) (l.remove name)
  | missing (way : Taking) {name : Text} (unknown : l.function? name = none) :
      Does l (.take way name) (way.missing name) l
  | oldest {name : Text} {extractor : Extractor} (isOldest : l.IsOldest name extractor) :
      Does l .takeFirst (.ok (.entry name extractor)) (l.remove name)
  | empty (none : ∀ name, l.function? name = none) : Does l .takeFirst (.error .noMapEntry) l
  | updated (entries : List (Text × Extractor)) :
      Does l (.update (offered entries)) (.ok .nothing) (l.enterAll entries)
  | stopped (entries : List (Text × Extractor)) (name : Text) {offer : Offer Extractor}
      (uncallable : Uncallable offer) (others : List (Text × Offer Extractor)) :
      Does l (.update (offered entries ++ (name, offer) :: others))
        (.error (.extractorNotCallable name offer.typeName)) (l.enterAll entries)
  | cleared : Does l .clear (.ok .nothing) l.cleared
  | got {name : Text} {extractor : Extractor} (known : l.function? name = some extractor) :
      Does l (.get name) (.ok (.given (.function extractor))) l
  | unknown {name : Text} (unknown : l.function? name = none) :
      Does l (.get name) (.error (.keyMissing name)) l
  | applied {name : Text} {extractor : Extractor} (known : l.function? name = some extractor)
      (value : Value) : Does l (.apply name value) ((extractor.run value).map .value) l
  | unregistered {name : Text} (unknown : l.function? name = none) (value : Value) :
      Does l (.apply name value) (.error (.extractorMissing name)) l

/-- What calls made one after the other do to a ledger. -/
inductive Ledger.Runs : Ledger → List Call → List (Except Failure Answer) → Ledger → Prop where
  | nil {l : Ledger} : Runs l [] [] l
  | cons {l m n : Ledger} {call : Call} {answer : Except Failure Answer} {calls : List Call}
      {answers : List (Except Failure Answer)} (first : l.Does call answer m)
      (others : Runs m calls answers n) : Runs l (call :: calls) (answer :: answers) n

/-! ## Tables that list a ledger -/

/-- A table has the functions of a ledger, in the order of their times. -/
structure Ledger.Lists (l : Ledger) (table : Extractors) : Prop where
  found : ∀ name, table.find? name = l.function? name
  ordered : table.keys.Pairwise fun a b => l.time a < l.time b
  past : ∀ name ∈ table.keys, l.time name < l.clock

section Listing

variable {l m : Ledger} {table other : Extractors} {name : Text} {extractor : Extractor}

theorem mem_keys_iff : name ∈ table.keys ↔ table.find? name ≠ none :=
  (not_iff_comm.mp Table.lookup_eq_none_iff.symm).symm

namespace Ledger

theorem lists_empty : Ledger.empty.Lists .empty := ⟨fun _ => rfl, .nil, nofun⟩

theorem Lists.mem_keys_iff (lists : l.Lists table) :
    name ∈ table.keys ↔ l.function? name ≠ none := by
  rw [Extractors.mem_keys_iff, lists.found]

theorem Lists.nodup (lists : l.Lists table) : table.keys.Nodup :=
  lists.ordered.imp fun earlier same => by
    rw [same] at earlier
    exact Nat.lt_irrefl _ earlier

theorem time_enter_known (known : l.function? name ≠ none) (extractor : Extractor) :
    (l.enter name extractor).time = l.time := by
  funext other
  exact if_neg fun new => known new.2

theorem time_enter_other {a : Text} (different : a ≠ name) (extractor : Extractor) :
    (l.enter name extractor).time a = l.time a := if_neg fun same => different same.1

theorem time_enter_new (new : l.function? name = none) (extractor : Extractor) :
    (l.enter name extractor).time name = l.clock := if_pos ⟨rfl, new⟩

theorem Lists.enter (lists : l.Lists table) (name : Text) (extractor : Extractor) :
    (l.enter name extractor).Lists (table.insert name extractor) := by
  have found (a : Text) : (table.insert name extractor).find? a =
      (l.enter name extractor).function? a := by
    rw [Table.find?_insert, lists.found]
    rfl
  by_cases known : name ∈ table.keys
  · -- The place and the time stay as they are.
    have times := time_enter_known (lists.mem_keys_iff.mp known) extractor
    have keys : (table.insert name extractor).keys = table.keys := by
      rw [Table.keys_insert, if_pos known]
    refine ⟨found, ?_, fun a member => ?_⟩
    · rw [keys, times]
      exact lists.ordered
    · rw [keys] at member
      rw [times]
      exact Nat.lt_succ_of_lt (lists.past a member)
  · -- The name goes behind all others, and its time is the latest.
    have new : l.function? name = none := not_not.mp fun has => known (lists.mem_keys_iff.mpr has)
    have keys : (table.insert name extractor).keys = table.keys ++ [name] := by
      rw [Table.keys_insert, if_neg known]
    have others {a : Text} (member : a ∈ table.keys) :
        (l.enter name extractor).time a = l.time a :=
      time_enter_other (by rintro rfl; exact known member) extractor
    refine ⟨found, ?_, fun a member => ?_⟩
    · rw [keys, List.pairwise_append]
      refine ⟨?_, List.pairwise_singleton _ _, fun a member b last => ?_⟩
      · refine lists.ordered.imp_of_mem fun memberA memberB earlier => ?_
        rwa [others memberA, others memberB]
      · obtain rfl := List.mem_singleton.mp last
        rw [others member, time_enter_new new]
        exact lists.past a member
    · rw [keys, List.mem_append, List.mem_singleton] at member
      obtain member | rfl := member
      · rw [others member]
        exact Nat.lt_succ_of_lt (lists.past a member)
      · rw [time_enter_new new]
        exact Nat.lt_succ_self _

theorem Lists.remove (lists : l.Lists table) (name : Text) :
    (l.remove name).Lists (table.erase name) where
  found a := by
    rw [Table.find?_erase, lists.found]
    rfl
  ordered := by
    rw [Table.keys_erase]
    exact lists.ordered.filter _
  past a member := by
    rw [Table.keys_erase] at member
    exact lists.past a (List.mem_filter.mp member).1

theorem lists_cleared (l : Ledger) : l.cleared.Lists .empty := ⟨fun _ => rfl, .nil, nofun⟩

/-- The first entry is the oldest. -/
theorem Lists.oldest {entry : Text × Extractor} {entries : List (Text × Extractor)}
    (lists : l.Lists table) (same : table.entries = entry :: entries) :
    l.IsOldest entry.1 entry.2 := by
  have keys : table.keys = entry.1 :: entries.map (·.1) := by rw [Table.keys, same]; rfl
  refine ⟨?_, fun a known => ?_⟩
  · rw [← lists.found]
    exact Table.find?_of_mem lists.nodup (by rw [same]; exact List.mem_cons_self)
  · have member := lists.mem_keys_iff.mpr known
    have ordered := lists.ordered
    rw [keys] at member ordered
    obtain rfl | later := List.mem_cons.mp member
    · exact Nat.le_refl _
    · exact Nat.le_of_lt (List.rel_of_pairwise_cons ordered later)

/-- A ledger is listed by one table only. -/
theorem Lists.unique (one : l.Lists table) (two : l.Lists other) : table = other := by
  have irrefl : Std.Irrefl fun a b => l.time a < l.time b := ⟨fun _ => Nat.lt_irrefl _⟩
  have antisymm : Std.Antisymm fun a b => l.time a < l.time b :=
    ⟨fun _ _ earlier later => absurd (Nat.lt_trans earlier later) (Nat.lt_irrefl _)⟩
  have keys : table.keys = other.keys := one.ordered.eq_of_mem_iff two.ordered fun a => by
    rw [one.mem_keys_iff, two.mem_keys_iff]
  have found : table.find? = other.find? :=
    funext fun a => (one.found a).trans (two.found a).symm
  have entries : table.entries = other.entries := by
    rw [Table.entries_eq one.nodup, Table.entries_eq two.nodup, keys, found]
  cases table
  cases other
  exact congrArg Table.mk entries

end Ledger

end Listing

/-! ## What a call does to the table -/

section Steps

variable {l : Ledger} {table : Extractors} {name : Text} {extractor : Extractor}
  {offer : Offer Extractor}

theorem callable_or_not (offer : Offer Extractor) :
    (∃ extractor, offer = .function extractor) ∨ Uncallable offer := by
  cases offer with
  | function extractor => exact .inl ⟨extractor, rfl⟩
  | nothing | other => exact .inr nofun

theorem set_uncallable (uncallable : Uncallable offer) (name : Text) (table : Extractors) :
    set name offer table = ⟨table, [], .error (.extractorNotCallable name offer.typeName)⟩ := by
  cases offer with
  | function extractor => exact absurd rfl (uncallable extractor)
  | nothing | other => rfl

theorem setDefault_known (known : table.find? name = some extractor) (offer : Offer Extractor) :
    setDefault name offer table = ⟨table, [], .ok (.function extractor)⟩ := by
  simp only [setDefault, Action.state, bind, pure, known, List.append_nil]

/-- Under a name without a function a default is entered as any offer is. -/
theorem setDefault_new (new : table.find? name = none) (offer : Offer Extractor) :
    setDefault name offer table = decorate name offer table := by
  have started : (Action.state : Action Extractors Extractors) table = ⟨table, [], .ok table⟩ := rfl
  rw [setDefault, Action.bind_of_ok started, new]
  rfl

/-- A default finds a function under its name, or an offer is free to be entered. -/
theorem Offering.known_or_free (way : Offering) (name : Text) (table : Extractors) :
    (way = .setDefault ∧ ∃ extractor, table.find? name = some extractor) ∨
      (way = .setDefault → table.find? name = none) := by
  cases table.find? name with
  | none => exact .inr fun _ => rfl
  | some extractor =>
    by_cases isDefault : way = .setDefault
    · exact .inl ⟨isDefault, extractor, rfl⟩
    · exact .inr fun same => absurd same isDefault

theorem Offering.run_known (known : table.find? name = some extractor) (offer : Offer Extractor) :
    setDefault.run name offer table = ⟨table, [], .ok (.given (.function extractor))⟩ := by
  rw [Offering.run, Action.bind_of_ok (setDefault_known known offer)]
  rfl

theorem Offering.run_new (new : table.find? name = none) (offer : Offer Extractor) :
    setDefault.run name offer table = decorate.run name offer table := by
  simp only [Offering.run, bind, setDefault_new new]

theorem Offering.run_function (way : Offering)
    (free : way = .setDefault → table.find? name = none) (extractor : Extractor) :
    ∃ events, way.run name (.function extractor) table =
      ⟨table.insert name extractor, events, .ok (way.answer (.function extractor))⟩ := by
  cases way with
  | set | register | decorate => exact ⟨_, rfl⟩
  | setDefault =>
    rw [run_new (free rfl)]
    exact ⟨_, rfl⟩

theorem Offering.run_uncallable (way : Offering) (uncallable : Uncallable offer)
    (free : way = .setDefault → table.find? name = none)
    (given : way = .register → offer ≠ .nothing) :
    way.run name offer table = ⟨table, [], .error (.extractorNotCallable name offer.typeName)⟩ := by
  have refused := set_uncallable uncallable name table
  have refusedDecorated : decorate.run name offer table =
      ⟨table, [], .error (.extractorNotCallable name offer.typeName)⟩ := by
    rw [Offering.run, Extractors.decorate, Action.bind_of_error (Action.bind_of_error refused _)]
  cases way with
  | set => rw [Offering.run, Action.bind_of_error refused]
  | register =>
    cases offer with
    | function extractor => exact absurd rfl (uncallable extractor)
    | nothing => exact absurd rfl (given rfl)
    | other typeName => rfl
  | decorate => exact refusedDecorated
  | setDefault => rw [run_new (free rfl), refusedDecorated]

theorem Taking.run_known (known : table.find? name = some extractor) (way : Taking) :
    ∃ events, way.run name table = ⟨table.erase name, events, .ok (way.found extractor)⟩ := by
  cases way with
  | delete | unregister | pop | popOr =>
    simp only [Taking.run, Extractors.delete, Extractors.unregister, Extractors.pop,
      Extractors.popOr, Extractors.get, Action.state, Action.change, Action.note, Action.ofTraced,
      Traced.note, bind, pure, known]
    exact ⟨_, rfl⟩

theorem Taking.run_unknown (unknown : table.find? name = none) (way : Taking) :
    way.run name table = ⟨table, [], way.missing name⟩ := by
  cases way with
  | delete | unregister | pop | popOr =>
    simp only [Taking.run, Extractors.delete, Extractors.unregister, Extractors.pop,
      Extractors.popOr, Extractors.get, Action.state, Action.fail, Action.ofTraced, Traced.fail,
      bind, pure, unknown]
    rfl

/-- The table with entries set one by one. -/
def insertAll (table : Extractors) (entries : List (Text × Extractor)) : Extractors :=
  entries.foldl (fun table entry => table.insert entry.1 entry.2) table

/-- How an update goes: all offers are entered, or those in front of the first that is no
function. -/
inductive Updating (table : Extractors) :
    List (Text × Offer Extractor) → Except Failure Unit → Extractors → Prop where
  | all (entries : List (Text × Extractor)) :
      Updating table (offered entries) (.ok ()) (insertAll table entries)
  | stopped (entries : List (Text × Extractor)) (name : Text) {offer : Offer Extractor}
      (uncallable : Uncallable offer) (others : List (Text × Offer Extractor)) :
      Updating table (offered entries ++ (name, offer) :: others)
        (.error (.extractorNotCallable name offer.typeName)) (insertAll table entries)

theorem updating (offers : List (Text × Offer Extractor)) (table : Extractors) :
    Updating table offers (update offers table).outcome.result (update offers table).state := by
  induction offers generalizing table with
  | nil => exact .all []
  | cons first offers ih =>
    obtain ⟨name, offer⟩ := first
    obtain ⟨extractor, rfl⟩ | uncallable := callable_or_not offer
    · have entered : set name (.function extractor) table =
          ⟨table.insert name extractor, [.extractorRegistered name], .ok ()⟩ := rfl
      have later := ih (table.insert name extractor)
      rw [update, Action.bind_of_ok entered]
      dsimp only
      generalize (update offers (table.insert name extractor)).outcome.result = result at later
      generalize (update offers (table.insert name extractor)).state = next at later
      cases later with
      | all entries => exact .all ((name, extractor) :: entries)
      | stopped entries other uncallable others =>
        exact .stopped ((name, extractor) :: entries) other uncallable others
    · rw [update, Action.bind_of_error (set_uncallable uncallable name table)]
      exact .stopped [] name uncallable offers

namespace Ledger

/-- A call of the table does what the ledger that it lists prescribes. -/
def Follows (l : Ledger) (call : Call) (ran : Ran Extractors Answer) : Prop :=
  ∃ m, l.Does call ran.outcome.result m ∧ m.Lists ran.state

theorem Lists.enterAll (lists : l.Lists table) (entries : List (Text × Extractor)) :
    (l.enterAll entries).Lists (insertAll table entries) := by
  induction entries generalizing l table with
  | nil => exact lists
  | cons entry entries ih => exact ih (lists.enter entry.1 entry.2)

theorem Lists.follows_offer (lists : l.Lists table) (way : Offering) (name : Text)
    (offer : Offer Extractor) : l.Follows (.offer way name offer) (way.run name offer table) := by
  obtain ⟨rfl, extractor, known⟩ | free := way.known_or_free name table
  · rw [Offering.run_known known]
    exact ⟨l, .taken (lists.found name ▸ known) offer, lists⟩
  · have freeEntry : way = .setDefault → l.function? name = none := by rwa [← lists.found]
    obtain ⟨extractor, rfl⟩ | uncallable := callable_or_not offer
    · obtain ⟨events, ran⟩ := way.run_function free extractor
      rw [ran]
      exact ⟨_, .entered way extractor freeEntry, lists.enter name extractor⟩
    · by_cases promised : way = .register ∧ offer = .nothing
      · obtain ⟨rfl, rfl⟩ := promised
        exact ⟨l, .promised name, lists⟩
      · have given : way = .register → offer ≠ .nothing := fun same nothing =>
          promised ⟨same, nothing⟩
        rw [way.run_uncallable uncallable free given]
        exact ⟨l, .refused way uncallable freeEntry given, lists⟩

theorem Lists.follows_take (lists : l.Lists table) (way : Taking) (name : Text) :
    l.Follows (.take way name) (way.run name table) := by
  cases known : table.find? name with
  | some extractor =>
    obtain ⟨events, ran⟩ := way.run_known known
    rw [ran]
    exact ⟨_, .removed way (lists.found name ▸ known), lists.remove name⟩
  | none =>
    rw [way.run_unknown known]
    exact ⟨l, .missing way (lists.found name ▸ known), lists⟩

theorem Lists.follows_takeFirst (lists : l.Lists table) :
    l.Follows .takeFirst (Call.takeFirst.run table) := by
  obtain ⟨entries⟩ := table
  cases entries with
  | nil =>
    have none (name : Text) : l.function? name = none := (lists.found name).symm
    exact ⟨l, .empty none, lists⟩
  | cons entry entries => exact ⟨_, .oldest (lists.oldest rfl), lists.remove entry.1⟩

theorem Lists.follows_update (lists : l.Lists table) (offers : List (Text × Offer Extractor)) :
    l.Follows (.update offers) ((Call.update offers).run table) := by
  have updating := updating offers table
  have ran : (Call.update offers).run table =
      (Extractors.update offers >>= fun _ => pure Answer.nothing) table := rfl
  rw [ran]
  cases made : Extractors.update offers table with
  | mk next outcome =>
    obtain ⟨events, result⟩ := outcome
    rw [made] at updating
    cases updating with
    | all entries =>
      rw [Action.bind_of_ok made]
      exact ⟨_, .updated entries, lists.enterAll entries⟩
    | stopped entries name uncallable others =>
      rw [Action.bind_of_error made]
      exact ⟨_, .stopped entries name uncallable others, lists.enterAll entries⟩

theorem Lists.follows_get (lists : l.Lists table) (name : Text) :
    l.Follows (.get name) ((Call.get name).run table) := by
  cases known : table.find? name with
  | some extractor =>
    simp only [Call.run, Extractors.get, Action.state, bind, pure, known]
    exact ⟨l, .got (lists.found name ▸ known), lists⟩
  | none =>
    simp only [Call.run, Extractors.get, Action.state, Action.fail, Action.ofTraced, Traced.fail,
      bind, pure, known]
    exact ⟨l, .unknown (lists.found name ▸ known), lists⟩

theorem Lists.follows_apply (lists : l.Lists table) (name : Text) (value : Value) :
    l.Follows (.apply name value) ((Call.apply name value).run table) := by
  cases known : table.find? name with
  | some extractor =>
    have applied : ((Call.apply name value).run table).outcome.result =
        (extractor.run value).map .value := by
      simp only [Call.run, Extractors.call, Action.state, Action.ofTraced, Traced.note,
        Traced.ofExcept, bind, pure, known]
      cases extractor.run value <;> rfl
    have kept : ((Call.apply name value).run table).state = table := by
      simp only [Call.run, Extractors.call, Action.state, Action.ofTraced, Traced.note,
        Traced.ofExcept, bind, pure, known]
      cases extractor.run value <;> rfl
    rw [Follows, applied, kept]
    exact ⟨l, .applied (lists.found name ▸ known) value, lists⟩
  | none =>
    simp only [Call.run, Extractors.call, Action.state, Action.ofTraced, Traced.fail, bind, pure,
      known]
    exact ⟨l, .unregistered (lists.found name ▸ known) value, lists⟩

/-- Every call does what the ledger prescribes. -/
theorem Lists.follows (lists : l.Lists table) (call : Call) : l.Follows call (call.run table) := by
  cases call with
  | offer way name offer => exact lists.follows_offer way name offer
  | take way name => exact lists.follows_take way name
  | takeFirst => exact lists.follows_takeFirst
  | update offers => exact lists.follows_update offers
  | clear => exact ⟨_, .cleared, lists_cleared l⟩
  | get name => exact lists.follows_get name
  | apply name value => exact lists.follows_apply name value

/-- So do calls made one after the other. -/
theorem Lists.run (lists : l.Lists table) (calls : List Call) :
    ∃ m, l.Runs calls (answers calls table) m ∧ m.Lists (after calls table) := by
  induction calls generalizing l table with
  | nil => exact ⟨l, .nil, lists⟩
  | cons call calls ih =>
    obtain ⟨m, first, next⟩ := lists.follows call
    obtain ⟨n, others, last⟩ := ih next
    exact ⟨n, .cons first others, last⟩

end Ledger

end Steps

/-! ## What holds after any calls -/

/-- What a call offers, and under which names. -/
def Call.offers : Call → List (Text × Offer Extractor)
  | offer _ name given => [(name, given)]
  | update offers => offers
  | _ => []

namespace Ledger

variable {l m : Ledger} {name : Text} {extractor : Extractor}

theorem enterAll_source {entries : List (Text × Extractor)}
    (known : (l.enterAll entries).function? name = some extractor) :
    l.function? name = some extractor ∨ (name, extractor) ∈ entries := by
  induction entries generalizing l with
  | nil => exact .inl known
  | cons entry entries ih =>
    obtain before | later := ih known
    · simp only [enter] at before
      split at before
      · next same =>
        cases before
        exact .inr (same ▸ List.mem_cons_self)
      · exact .inl before
    · exact .inr (List.mem_cons_of_mem entry later)

theorem mem_offered {entries : List (Text × Extractor)} (member : (name, extractor) ∈ entries) :
    (name, Offer.function extractor) ∈ offered entries :=
  List.mem_map_of_mem (f := fun entry => (entry.1, Offer.function entry.2)) member

/-- A function in a ledger was there before or is offered by the call. -/
theorem Does.source {call : Call} {answer : Except Failure Answer} (does : l.Does call answer m)
    (known : m.function? name = some extractor) :
    l.function? name = some extractor ∨ (name, .function extractor) ∈ call.offers := by
  cases does with
  | entered =>
    simp only [enter] at known
    split at known
    · next same =>
      cases known
      exact .inr (same ▸ List.mem_cons_self)
    · exact .inl known
  | removed | oldest =>
    simp only [remove] at known
    split at known
    · cases known
    · exact .inl known
  | updated entries => exact (enterAll_source known).imp_right mem_offered
  | stopped entries =>
    exact (enterAll_source known).imp_right fun member =>
      List.mem_append_left _ (mem_offered member)
  | cleared => cases known
  | refused | promised | taken | missing | empty | got | unknown | applied | unregistered =>
    exact .inl known

theorem Runs.source {calls : List Call} {answers : List (Except Failure Answer)}
    (runs : l.Runs calls answers m) (known : m.function? name = some extractor) :
    l.function? name = some extractor ∨
      ∃ call ∈ calls, (name, Offer.function extractor) ∈ call.offers := by
  induction runs with
  | nil => exact .inl known
  | cons first _ ih =>
    obtain before | ⟨call, member, offers⟩ := ih known
    · exact (first.source before).imp_right fun offers => ⟨_, List.mem_cons_self, offers⟩
    · exact .inr ⟨call, List.mem_cons_of_mem _ member, offers⟩

/-- A failure leaves a ledger as it is, unless it is that of an update. -/
theorem Does.kept {call : Call} {answer : Except Failure Answer} {failure : Failure}
    (does : l.Does call answer m) (failed : answer = .error failure)
    (single : ∀ offers, call ≠ .update offers) : m = l := by
  cases does with
  | updated | stopped => exact absurd rfl (single _)
  | entered | removed | oldest | cleared => cases failed
  | refused | promised | taken | missing | empty | got | unknown | applied | unregistered => rfl

end Ledger

section Places

variable {l : Ledger} {table : Extractors} {name : Text}

/-- A function that is offered leaves a name at its place and puts a new one last. -/
theorem keys_offer (way : Offering) (name : Text) (extractor : Extractor) (table : Extractors) :
    (way.run name (.function extractor) table).state.keys =
      if name ∈ table.keys then table.keys else table.keys ++ [name] := by
  obtain ⟨rfl, found, known⟩ | free := way.known_or_free name table
  · have member : name ∈ table.keys := mem_keys_iff.mpr (by rw [known]; exact Option.some_ne_none _)
    rw [Offering.run_known known, if_pos member]
  · obtain ⟨events, ran⟩ := way.run_function free extractor
    rw [ran, Table.keys_insert]

theorem keys_take (way : Taking) (name : Text) (table : Extractors) :
    (way.run name table).state.keys = table.keys.filter (· ≠ name) := by
  cases known : table.find? name with
  | some extractor =>
    obtain ⟨events, ran⟩ := way.run_known known
    rw [ran, Table.keys_erase]
  | none =>
    rw [way.run_unknown known]
    refine (List.filter_eq_self.mpr fun other member => decide_eq_true ?_).symm
    rintro rfl
    exact mem_keys_iff.mp member known

/-- A name that is taken out and offered again goes behind all others. -/
theorem keys_take_offer (taking : Taking) (way : Offering) (name : Text) (extractor : Extractor)
    (table : Extractors) :
    (way.run name (.function extractor) (taking.run name table).state).state.keys =
      table.keys.filter (· ≠ name) ++ [name] := by
  rw [keys_offer, keys_take, if_neg]
  intro member
  exact of_decide_eq_true (List.mem_filter.mp member).2 rfl

theorem takeFirst_entries (nodup : table.keys.Nodup) {entry : Text × Extractor}
    {entries : List (Text × Extractor)} (same : table.entries = entry :: entries) :
    (Call.takeFirst.run table).outcome.result = .ok (.entry entry.1 entry.2) ∧
      (Call.takeFirst.run table).state.entries = entries := by
  obtain ⟨listed⟩ := table
  obtain rfl : listed = entry :: entries := same
  refine ⟨rfl, ?_⟩
  rw [Table.keys, List.map_cons, List.nodup_cons] at nodup
  have others : ∀ other ∈ entries, other.1 ≠ entry.1 := by
    intro other member same
    exact nodup.1 (same ▸ List.mem_map_of_mem member)
  change (entry :: entries).filter (fun other => other.1 ≠ entry.1) = entries
  rw [List.filter_cons_of_neg (by simp), List.filter_eq_self]
  exact fun other member => decide_eq_true (others other member)

end Places

/-- The call of a function under a name. -/
def noted (name : Text) (extractor : Extractor) (value : Value) : Traced Value := do
  Traced.note (.extractorCalled name extractor.title value)
  Traced.ofExcept (extractor.run value)

theorem call_of_known {table : Extractors} {name : Text} {extractor : Extractor}
    (known : table.find? name = some extractor) (value : Value) :
    table.call name value = noted name extractor value := by
  rw [call, known]
  rfl

/-- A call fails without a function being called exactly if the name has none. -/
theorem call_missing_iff {table : Extractors} {name : Text} {value : Value} :
    table.call name value = Traced.fail (.extractorMissing name) ↔ name ∉ table.keys := by
  constructor
  · intro failed member
    obtain ⟨extractor, known⟩ := Option.ne_none_iff_exists'.mp (mem_keys_iff.mp member)
    rw [call_of_known known] at failed
    have events := congrArg Traced.events failed
    rw [noted, Traced.events_bind] at events
    cases events
  · intro missing
    have unknown : table.find? name = none :=
      not_not.mp fun known => missing (mem_keys_iff.mpr known)
    rw [call, unknown]

/-- The table after any calls, made one after the other whether they succeed or fail. The calls have
the answers and effects that a ledger prescribes, and the table is the only one that lists it. What
is entered was offered as a function. A function that is offered keeps the place of its name, a new
name goes last, and so does one that was taken out; the first entry is the one that is taken first.
A call that fails changes nothing, unless it is an update, which keeps what it entered in front of
the offer that it refuses. Calling an extractor fails for want of a function just where its name has
none and calls the function that is entered everywhere else. -/
theorem extractor_table_refines_ledger (calls : List Call) :
    let table := after calls .empty
    (∃ ledger : Ledger, Ledger.empty.Runs calls (answers calls .empty) ledger ∧
        ∀ other, ledger.Lists other ↔ other = table) ∧
      (table.keys.Nodup ∧ ∀ entry ∈ table.entries, ∃ call ∈ calls,
        (entry.1, .function entry.2) ∈ call.offers) ∧
      (∀ way name extractor, ((Call.offer way name (.function extractor)).run table).state.keys =
        if name ∈ table.keys then table.keys else table.keys ++ [name]) ∧
      (∀ taking way name extractor, ((Call.offer way name (.function extractor)).run
        ((Call.take taking name).run table).state).state.keys =
          table.keys.filter (· ≠ name) ++ [name]) ∧
      (∀ entry entries, table.entries = entry :: entries →
        (Call.takeFirst.run table).outcome.result = .ok (.entry entry.1 entry.2) ∧
          (Call.takeFirst.run table).state.entries = entries) ∧
      (∀ (call : Call) failure, (call.run table).outcome.result = .error failure →
        (∀ offers, call ≠ .update offers) → (call.run table).state = table) ∧
      (∀ offers, Updating table offers (update offers table).outcome.result
        (update offers table).state) ∧
      ∀ name value, (table.call name value = Traced.fail (.extractorMissing name) ↔
          name ∉ table.keys) ∧
        ∀ extractor, (name, extractor) ∈ table.entries →
          table.call name value = noted name extractor value := by
  obtain ⟨ledger, runs, lists⟩ := Ledger.lists_empty.run calls
  refine ⟨⟨ledger, runs, fun other => ⟨fun listed => listed.unique lists, fun same => ?_⟩⟩,
    ⟨lists.nodup, fun entry member => ?_⟩,
    fun way name extractor => keys_offer way name extractor _,
    fun taking way name extractor => keys_take_offer taking way name extractor _,
    fun entry entries same => takeFirst_entries lists.nodup same,
    fun call failure failed single => ?_, fun offers => updating offers _,
    fun name value => ⟨call_missing_iff, fun extractor member => ?_⟩⟩
  · rw [same]
    exact lists
  · have known : ledger.function? entry.1 = some entry.2 := by
      rw [← lists.found]
      exact Table.find?_of_mem lists.nodup member
    exact (runs.source known).resolve_left nofun
  · obtain ⟨m, does, next⟩ := lists.follows call
    rw [does.kept failed single] at next
    exact next.unique lists
  · exact call_of_known (Table.find?_of_mem lists.nodup member) value

end Extractors

end PatternDispatch
