import Mathlib.Logic.Relation
import PatternDispatch.Proofs.RegisteredSumTypes
import PatternDispatch.Proofs.VisitedNodes

/-!
Which entries a run can look up. A run asks for a class or an extractor only by a name that stands
in the pattern, so it does not depend on what is registered under other names. Sum types also answer
for the slots of their values; those that a table gives depend on the classes alone, but other sum
types can answer as they like. A registration of a sum type is not only about its own name: a
variant that has no entry yet is entered under its own.
-/

namespace PatternDispatch

namespace Pattern

/-- A class name occurs in a tree. -/
def MentionsClass (tree : Pattern) (name : Text) : Prop :=
  ∃ p, tree.Occurs p ∧ p.className? = some name

def MentionsExtractor (tree : Pattern) (name : Text) : Prop :=
  ∃ p, tree.Occurs p ∧ p.extractorName? = some name

section Mentions

variable {tree p : Pattern} {name other inside : Text}

theorem occurs_iff : tree.Occurs p ↔ p = tree ∨ ∃ child ∈ tree.children, child.Occurs p := by
  constructor
  · intro occurs
    cases occurs with
    | root => exact .inl rfl
    | child member below => exact .inr ⟨_, member, below⟩
  · rintro (rfl | ⟨child, member, below⟩)
    · exact .root p
    · exact .child member below

/-- The nodes of a class pattern with one name between its parentheses. -/
theorem occurs_single :
    (argumentList [.tagArray name [.identifier inside]]).Occurs p ↔
      p = argumentList [.tagArray name [.identifier inside]] ∨
        p = tagArray name [.identifier inside] ∨ p = array [.identifier inside] ∨
          p = identifier inside := by
  simp [@occurs_iff (argumentList _), @occurs_iff (tagArray _ _), @occurs_iff (array _),
    @occurs_iff (identifier _), children]

theorem mentionsClass_single :
    (argumentList [.tagArray name [.identifier inside]]).MentionsClass other ↔ name = other := by
  simp [MentionsClass, occurs_single, className?]

theorem not_mentionsExtractor_single :
    ¬(argumentList [.tagArray name [.identifier inside]]).MentionsExtractor other := by
  simp [MentionsExtractor, occurs_single, extractorName?]

end Mentions

end Pattern

/-! ## Names that are visited -/

namespace Matching

/-- The name that a visit asks for, if it asks for one, occurs in a tree. -/
def Visit.Mentioned (tree : Pattern) : Visit → Prop
  | className name _ | components name _ => tree.MentionsClass name
  | extractor name _ => tree.MentionsExtractor name
  | test _ | comparison _ _ | sequence _ _ | mapping _ _ | entries _ => True

section Mentioned

variable {ctx : Context} {tree : Pattern}

theorem Asks.mentioned {p : Pattern} {v : Value} {visit : Visit} (asks : Asks p v visit)
    (occurs : tree.Occurs p) : visit.Mentioned tree := by
  cases asks with
  | test | comparison | sequence | arguments | mapping | entries => trivial
  | className named | extractor named => exact ⟨p, occurs, named⟩
  | components => exact ⟨_, occurs, rfl⟩

/-- What a pattern visits by name is mentioned in every tree in which the pattern occurs. -/
theorem visits_mentioned {p : Pattern} (occurs : tree.Occurs p) (v : Value) :
    ∀ visit ∈ visits ctx p v, visit.Mentioned tree := by
  intro visit member
  have asked : AskedFrom (fun q _ => tree.Occurs q) (visits ctx p v) :=
    visits_asked (fun within leads => within.trans leads.occurs) occurs
  obtain ⟨q, w, within, asks⟩ := asked visit member
  exact asks.mentioned within

end Mentioned

end Matching

/-! ## Contexts that agree -/

namespace Context

/-- The variants that a class name stands for; without sum types it stands for none. -/
def variantsOf (ctx : Context) (name : Text) : List Text :=
  (ctx.sumTypes?.bind (·.find? name)).getD []

/-- Two contexts have the same classes, and the same extractors and variants under all names that
occur in a tree. -/
structure SameEntries (tree : Pattern) (ctx other : Context) : Prop where
  classes : other.classes = ctx.classes
  extractors : ∀ name, tree.MentionsExtractor name →
    other.extractors.find? name = ctx.extractors.find? name
  variants : ∀ name, tree.MentionsClass name →
    ∀ variant, variant ∈ other.variantsOf name ↔ variant ∈ ctx.variantsOf name

/-- Two contexts with the same entries for a tree also give a value the same slots, if it belongs to
a variant of a name in the tree. -/
structure AgreeOn (tree : Pattern) (ctx other : Context) : Prop
    extends SameEntries tree ctx other where
  slots : ∀ name v types others, tree.MentionsClass name → ctx.isVariant v name = true →
    ctx.sumTypes? = some types → other.sumTypes? = some others → others.slots v = types.slots v

section AgreeOn

variable {tree : Pattern} {ctx other last : Context} {types? others? : Option Variants} {v : Value}
  {name : Text}

theorem isVariant_eq : ctx.isVariant v name = (ctx.variantsOf name).any (ctx.isInstance v) := by
  unfold isVariant variantsOf
  cases ctx.sumTypes? <;> rfl

theorem SameEntries.isVariant (same : SameEntries tree ctx other)
    (mentioned : tree.MentionsClass name) : other.isVariant v name = ctx.isVariant v name := by
  have instances : other.isInstance v = ctx.isInstance v := by
    funext className
    unfold isInstance
    rw [same.classes]
  rw [isVariant_eq, isVariant_eq, instances, Bool.eq_iff_iff, List.any_eq_true, List.any_eq_true]
  simp only [same.variants name mentioned]

theorem SameEntries.refl (tree : Pattern) (ctx : Context) : SameEntries tree ctx ctx :=
  ⟨rfl, fun _ _ => rfl, fun _ _ _ => .rfl⟩

theorem AgreeOn.refl (tree : Pattern) (ctx : Context) : AgreeOn tree ctx ctx where
  toSameEntries := .refl tree ctx
  slots _ _ types others _ _ known again := by
    rw [Option.some.inj (again.symm.trans known)]

theorem AgreeOn.trans (first : AgreeOn tree ctx other) (second : AgreeOn tree other last) :
    AgreeOn tree ctx last where
  classes := second.classes.trans first.classes
  extractors name mentioned :=
    (second.extractors name mentioned).trans (first.extractors name mentioned)
  variants name mentioned variant :=
    (second.variants name mentioned variant).trans (first.variants name mentioned variant)
  slots name v types others mentioned isVariant known lastKnown := by
    have between : other.isVariant v name = true := by rw [first.isVariant mentioned, isVariant]
    obtain ⟨middle, -, -, middleKnown, -⟩ := isVariant_iff.mp between
    exact (second.slots name v middle others mentioned between middleKnown lastKnown).trans
      (first.slots name v types middle mentioned isVariant known middleKnown)

/-- The slots that a table gives depend on the classes alone. -/
theorem SameEntries.agreeOn (same : SameEntries tree ctx other) (uses : ctx.UsesTable types?)
    (otherUses : other.UsesTable others?) : AgreeOn tree ctx other where
  toSameEntries := same
  slots name v types others _ _ known otherKnown := by
    obtain ⟨table, -, rfl⟩ := uses.exists_table known
    obtain ⟨otherTable, -, rfl⟩ := otherUses.exists_table otherKnown
    rw [Variants.slots_sumTypes, Variants.slots_sumTypes, same.classes]

theorem SameEntries.typeMatches (same : SameEntries tree ctx other)
    (mentioned : tree.MentionsClass name) :
    other.typeMatches v name = ctx.typeMatches v name := by
  unfold Context.typeMatches
  rw [same.isVariant mentioned, same.classes]

theorem AgreeOn.positional (agree : AgreeOn tree ctx other)
    (mentioned : tree.MentionsClass name) :
    other.positional v name = ctx.positional v name := by
  have belongs := agree.isVariant (v := v) mentioned
  obtain ⟨table, extractors, others?⟩ := other
  obtain rfl : table = ctx.classes := agree.classes
  cases hooked : (v.class? ctx.classes).bind (·.positionalHook?) with
  | some hook =>
    rw [positional_of_hook hooked]
    exact positional_of_hook hooked
  | none =>
    cases isVariant : ctx.isVariant v name with
    | true =>
      obtain ⟨types, -, -, known, -⟩ := isVariant_iff.mp isVariant
      obtain ⟨others, -, -, otherKnown, -⟩ := isVariant_iff.mp (belongs.trans isVariant)
      rw [positional_of_variant hooked known isVariant,
        ← agree.slots name v types others mentioned isVariant known otherKnown]
      exact positional_of_variant hooked otherKnown (belongs.trans isVariant)
    | false =>
      rw [positional_of_other hooked isVariant]
      exact positional_of_other hooked (belongs.trans isVariant)

/-- Keyed components depend on the classes alone. -/
theorem keyed_congr (classes : other.classes = ctx.classes) : other.keyed v = ctx.keyed v := by
  obtain ⟨table, extractors, types⟩ := other
  obtain rfl : table = ctx.classes := classes
  rfl

/-- Contexts that agree on a tree give the same answer on a visit that asks for a name in it. -/
theorem AgreeOn.visit (agree : AgreeOn tree ctx other) {visit : Matching.Visit}
    (mentioned : visit.Mentioned tree) : visit.Agrees ctx other := by
  cases visit with
  | test | comparison | sequence | mapping => trivial
  | className name w => exact agree.typeMatches mentioned
  | components name w => exact agree.positional mentioned
  | entries w => exact keyed_congr agree.classes
  | extractor name w =>
    change other.extractors.call name w = ctx.extractors.call name w
    rw [Extractors.call, Extractors.call, agree.extractors name mentioned]

/-- A pattern runs alike in contexts that agree on it. -/
theorem AgreeOn.run (agree : AgreeOn tree ctx other) (v : Value) :
    Matching.run other tree v = Matching.run ctx tree v :=
  Matching.run_agrees tree v fun visit member =>
    agree.visit (Matching.visits_mentioned (.root tree) v visit member)

end AgreeOn

end Context

/-! ## Changes of the tables -/

namespace Extractors

/-- A call about the entry under one name. -/
inductive EntryCall where
  | set (offer : Offer Extractor)
  | register (offer : Offer Extractor)
  | decorate (offer : Offer Extractor)
  | setDefault (offer : Offer Extractor)
  | unregister
  | delete
  | pop

/-- The table after a call about a name, whether it succeeds or not. -/
def EntryCall.state (name : Text) : EntryCall → Extractors → Extractors
  | set offer, table => (Extractors.set name offer table).state
  | register offer, table => (Extractors.register name offer table).state
  | decorate offer, table => (Extractors.decorate name offer table).state
  | setDefault offer, table => (Extractors.setDefault name offer table).state
  | unregister, table => (Extractors.unregister name table).state
  | delete, table => (Extractors.delete name table).state
  | pop, table => (Extractors.pop name table).state

/-- A call that can change the table of extractors. -/
inductive Edit where
  | entry (name : Text) (call : EntryCall)
  | update (offers : List (Text × Offer Extractor))
  | popFirst
  | clear

/-- The table after a call, whether it succeeds or not. -/
def Edit.state : Edit → Extractors → Extractors
  | entry name call, table => call.state name table
  | update offers, table => (Extractors.update offers table).state
  | popFirst, table => (Extractors.popFirst table).state
  | clear, table => (Extractors.clear table).state

/-- The names under which a call can enter, replace or remove a function. -/
def Edit.names : Edit → Extractors → List Text
  | entry name _, _ => [name]
  | update offers, _ => offers.map (·.1)
  | popFirst, table => table.keys.take 1
  | clear, table => table.keys

/-- What a call can do to the entry under its name. -/
inductive Changed (name : Text) (table : Extractors) : Extractors → Prop where
  | kept : Changed name table table
  | entered (extractor : Extractor) : Changed name table (table.insert name extractor)
  | erased : Changed name table (table.erase name)

section Elsewhere

variable {table next : Extractors} {other : Text}

theorem Changed.elsewhere {name : Text} (changed : Changed name table next)
    (different : other ≠ name) : next.find? other = table.find? other := by
  cases changed with
  | kept => rfl
  | entered extractor => rw [Table.find?_insert, if_neg different]
  | erased => rw [Table.find?_erase, if_neg different]

theorem changed_set (name : Text) (offer : Offer Extractor) (table : Extractors) :
    Changed name table (set name offer table).state := by
  cases offer with
  | function extractor => exact .entered extractor
  | nothing | other => exact .kept

theorem EntryCall.changed (name : Text) (call : EntryCall) (table : Extractors) :
    Changed name table (call.state name table) := by
  cases call with
  | set offer => exact changed_set name offer table
  | register offer | decorate offer =>
    cases offer with
    | function extractor => exact .entered extractor
    | nothing | other => exact .kept
  | setDefault offer =>
    simp only [state, Extractors.setDefault, Action.state, bind, pure]
    cases table.find? name with
    | some extractor => exact .kept
    | none =>
      cases offer with
      | function extractor => exact .entered extractor
      | nothing | other => exact .kept
  | unregister =>
    simp only [state, Extractors.unregister, Action.state, bind, pure]
    cases table.find? name with
    | none => exact .kept
    | some extractor => exact .erased
  | delete =>
    simp only [state, Extractors.delete, get, Action.state, bind, pure]
    cases table.find? name with
    | none => exact .kept
    | some extractor => exact .erased
  | pop =>
    simp only [state, Extractors.pop, get, Action.state, bind, pure]
    cases table.find? name with
    | none => exact .kept
    | some extractor => exact .erased

/-- Entries that are set one by one are all under their own names. -/
theorem find?_update {offers : List (Text × Offer Extractor)}
    (outside : other ∉ offers.map (·.1)) :
    (update offers table).state.find? other = table.find? other := by
  induction offers generalizing table with
  | nil => rfl
  | cons offer offers ih =>
    obtain ⟨name, offer⟩ := offer
    rw [List.map_cons, List.mem_cons, not_or] at outside
    have first := (changed_set name offer table).elsewhere outside.1
    rw [update]
    cases ran : set name offer table with
    | mk next outcome =>
      obtain ⟨events, result⟩ := outcome
      rw [ran] at first
      cases result with
      | error failure =>
        rw [Action.bind_of_error ran]
        exact first
      | ok done =>
        rw [Action.bind_of_ok ran]
        exact (ih outside.2).trans first

/-- A call leaves the entries under all names but its own as they are. -/
theorem Edit.elsewhere (edit : Edit) (outside : other ∉ edit.names table) :
    (edit.state table).find? other = table.find? other := by
  cases edit with
  | entry name call =>
    exact (call.changed name table).elsewhere (List.ne_of_not_mem_cons outside)
  | update offers => exact find?_update outside
  | popFirst =>
    obtain ⟨entries⟩ := table
    cases entries with
    | nil => rfl
    | cons entry entries =>
      have changed : Changed entry.1 ⟨entry :: entries⟩ _ := .erased
      exact changed.elsewhere (List.ne_of_not_mem_cons outside)
  | clear => exact (Table.lookup_eq_none_iff.mpr outside).symm

end Elsewhere

end Extractors

namespace Variants

variable {types : Variants} {name other : Text} {variants : List Text}

/-- A registration leaves the entries as they are under other names than its own and those of
variants without an entry. -/
theorem find?_register (classes : ClassTable) (different : other ≠ name)
    (known : other ∈ variants → (types.find? other).isSome = true) :
    (register classes name variants types).state.find? other = types.find? other := by
  have registering := registering classes name variants types
  generalize register classes name variants types = ran at registering
  cases registering with
  | refused => rfl
  | entered =>
    rw [find?_entered, if_neg different]
    split
    · next member =>
      obtain ⟨found, entry⟩ := Option.isSome_iff_exists.mp (known member)
      rw [entry, Option.getD_some]
    · rfl

end Variants

/-! ## Changes that a pattern does not mention -/

namespace Context

/-- One change of the extractors or of the sum types of a context that is about other names than
those in a tree. -/
inductive Unrelated (tree : Pattern) (ctx : Context) : Context → Prop where
  | edit (edit : Extractors.Edit) :
      (∀ name ∈ edit.names ctx.extractors, ¬tree.MentionsExtractor name) →
      Unrelated tree ctx { ctx with extractors := edit.state ctx.extractors }
  /-- The variants may be mentioned if they are entered already. -/
  | register (types : Variants) (name : Text) (variants : List Text) :
      ctx.UsesTable (some types) → ¬tree.MentionsClass name →
      (∀ variant ∈ variants, tree.MentionsClass variant → (types.find? variant).isSome = true) →
      Unrelated tree ctx
        (ctx.withSumTypes (Variants.register ctx.classes name variants types).state)
  /-- A table in place of a table, or of none, or none in place of one. -/
  | retable (types? others? : Option Variants) : ctx.UsesTable types? →
      (∀ name, tree.MentionsClass name →
        others?.bind (·.find? name) = types?.bind (·.find? name)) →
      Unrelated tree ctx { ctx with sumTypes? := others?.map (Variants.sumTypes ctx.classes) }
  /-- Any other sum types in place of those there are, or none. -/
  | replace (types? : Option SumTypes) : AgreeOn tree ctx { ctx with sumTypes? := types? } →
      Unrelated tree ctx { ctx with sumTypes? := types? }

section Unrelated

variable {tree : Pattern} {ctx later : Context} {types? : Option Variants}

theorem UsesTable.variantsOf (uses : ctx.UsesTable types?) (name : Text) :
    ctx.variantsOf name = (types?.bind (·.find? name)).getD [] := by
  unfold Context.variantsOf
  rw [uses]
  cases types? <;> rfl

/-- Contexts with tables in which the names in a tree stand for the same agree on it. -/
theorem agreeOn_of_tables {others? : Option Variants} (uses : ctx.UsesTable types?)
    (same : ∀ name, tree.MentionsClass name →
      others?.bind (·.find? name) = types?.bind (·.find? name)) :
    AgreeOn tree ctx { ctx with sumTypes? := others?.map (Variants.sumTypes ctx.classes) } := by
  have otherUses : UsesTable { ctx with sumTypes? := others?.map (Variants.sumTypes ctx.classes) }
      others? := rfl
  refine SameEntries.agreeOn ⟨rfl, fun _ _ => rfl, fun name mentioned variant => ?_⟩ uses otherUses
  rw [otherUses.variantsOf, uses.variantsOf, same name mentioned]

/-- One change keeps what a pattern asks for. -/
theorem Unrelated.agreeOn (unrelated : Unrelated tree ctx later) : AgreeOn tree ctx later := by
  cases unrelated with
  | edit edit unmentioned =>
    refine ⟨⟨rfl, fun name mentioned => ?_, fun _ _ _ => .rfl⟩, (AgreeOn.refl tree ctx).slots⟩
    exact edit.elsewhere fun member => unmentioned name member mentioned
  | register types name variants uses unmentioned known =>
    have kept : ∀ other, tree.MentionsClass other →
        (Variants.register ctx.classes name variants types).state.find? other =
          types.find? other := by
      intro other mentioned
      have different : other ≠ name := by
        rintro rfl
        exact unmentioned mentioned
      exact Variants.find?_register ctx.classes different fun member => known other member mentioned
    exact @agreeOn_of_tables tree ctx (some types) (some _) uses kept
  | retable types? others? uses same => exact agreeOn_of_tables uses same
  | replace types? agree => exact agree

/-- Any number of changes keep what a pattern asks for. -/
theorem agreeOn_of_unrelated (changes : Relation.ReflTransGen (Unrelated tree) ctx later) :
    AgreeOn tree ctx later := by
  induction changes with
  | refl => exact .refl tree ctx
  | tail _ last ih => exact ih.trans last.agreeOn

end Unrelated

end Context

namespace Pattern.Parser

open Matching

/-- A compiled pattern depends only on the names in it and on the slots of their values. It runs
alike, with the same captures or the same failure and the same calls, on all arguments in two
contexts that have the same extractors and the same variants under these names and give the values
of these variants the same slots. Contexts with tables of sum types, or without sum types, always
give the same slots. So a pattern runs alike after any changes that are about other names. -/
theorem matching_ignores_unmentioned {text : Text} {tree : Pattern} (read : parse text = .ok tree) :
    ∃ procedure, Procedure.ofTree tree = .ok procedure ∧
      (∀ ctx other, Context.AgreeOn tree ctx other → ∀ arguments,
        procedure.run other arguments = procedure.run ctx arguments) ∧
      (∀ (ctx other : Context) (types? others? : Option Variants), ctx.UsesTable types? →
        other.UsesTable others? → Context.SameEntries tree ctx other → ∀ arguments,
        procedure.run other arguments = procedure.run ctx arguments) ∧
      ∀ ctx later, Relation.ReflTransGen (Context.Unrelated tree) ctx later → ∀ arguments,
        procedure.run later arguments = procedure.run ctx arguments := by
  obtain ⟨procedure, -, compiles⟩ := Procedure.exists_ofText read
  have same := Procedure.run_ofTree read compiles
  have alike (ctx other : Context) (agree : Context.AgreeOn tree ctx other)
      (arguments : List Value) :
      procedure.run other arguments = procedure.run ctx arguments := by
    rw [same, same, agree.run]
  refine ⟨procedure, compiles, alike, ?_, ?_⟩
  · intro ctx other types? others? uses otherUses entries
    exact alike ctx other (entries.agreeOn uses otherUses)
  · intro ctx later changes
    exact alike ctx later (Context.agreeOn_of_unrelated changes)

/-- Another extractor, and another sum type with a variant that is entered already, change nothing
for a pattern that takes the variant apart. -/
theorem matching_ignores_unmentioned_tables :
    let dot := Text.ofString "Dot"
    let classes := ClassTable.declare .empty
      { name := dot, base? := none, layout? := none, isData := true
        fields := [Text.ofString "x"], secondName := none, matchArgs := none
        omitsMatchArgs := false, isCallable := false, positionalHook := none, keyedHook := none
        asFields := none }
    let whole : Extractor := ⟨Text.ofString "whole", fun v => .ok (.pass v)⟩
    let types : Variants := ⟨[(dot, [dot])]⟩
    let moreTypes : Variants := ⟨[(dot, [dot]), (Text.ofString "Shape", [dot])]⟩
    let ctx : Context := ⟨classes, .empty, some (types.sumTypes classes)⟩
    let later : Context :=
      ⟨classes, ⟨[(Text.ofString "f", whole)]⟩, some (moreTypes.sumTypes classes)⟩
    let tree : Pattern := .argumentList [.tagArray dot [.identifier (Text.ofString "a")]]
    let v : Value := .record dot [(Text.ofString "x", .int 5)]
    parse (Text.ofString "Dot(a)") = .ok tree ∧
      Relation.ReflTransGen (Context.Unrelated tree) ctx later ∧
      ∃ procedure, Procedure.ofTree tree = .ok procedure ∧
        (procedure.run later [v]).result = .ok (some [.int 5]) ∧
        procedure.run later [v] = procedure.run ctx [v] := by
  intro dot classes whole types moreTypes ctx later tree v
  have matched : (run ctx tree (.tuple [v])).result = .ok (some [.int 5]) := rfl
  have read : parse (Text.ofString "Dot(a)") = .ok tree := rfl
  have changes : Relation.ReflTransGen (Context.Unrelated tree) ctx later := by
    let between : Context :=
      ⟨classes, ⟨[(Text.ofString "f", whole)]⟩, some (types.sumTypes classes)⟩
    have entered : Context.Unrelated tree ctx between := by
      apply Context.Unrelated.edit (.entry (Text.ofString "f") (.set (.function whole)))
      exact fun name member => not_mentionsExtractor_single
    have registered : Context.Unrelated tree between later := by
      have uses : between.UsesTable (some types) := rfl
      apply Context.Unrelated.register types (Text.ofString "Shape") [dot] uses
      · intro mentioned
        have same : Text.ofString "Dot" = Text.ofString "Shape" := mentionsClass_single.mp mentioned
        cases same
      · intro variant member mentioned
        rw [List.mem_singleton.mp member]
        rfl
    exact .tail (.single entered) registered
  obtain ⟨procedure, compiles, -, -, ignores⟩ := matching_ignores_unmentioned read
  have same := ignores ctx later changes [v]
  refine ⟨read, changes, procedure, compiles, ?_, same⟩
  rw [same, Procedure.run_ofTree read compiles, matched]

/-- The entries of its names do not decide alone what a pattern does. Sum types that have the same
variants under all names can still give an object different slots. And a sum type that the pattern
does not mention can bring in an entry that it does: `Dot(a)` passes over an object until its class
is entered as a variant of `Other`. -/
theorem entries_leave_slots_open :
    let dot := Text.ofString "Dot"
    let other := Text.ofString "Other"
    let classes := ClassTable.declare .empty
      { name := dot, base? := none, layout? := none, isData := true
        fields := [Text.ofString "x"], secondName := none, matchArgs := none
        omitsMatchArgs := true, isCallable := false, positionalHook := none, keyedHook := none
        asFields := none }
    let giving (slot : Value) : SumTypes :=
      ⟨fun name => if name = dot then some [dot] else none, fun _ => .ok 1, fun _ _ => .ok slot⟩
    let ctx (types : SumTypes) : Context := ⟨classes, .empty, some types⟩
    let table : Variants := .empty
    let registered := (Variants.register classes other [dot] table).state
    let tree : Pattern := .argumentList [.tagArray dot [.identifier (Text.ofString "a")]]
    let v : Value := .record dot [(Text.ofString "x", .int 5)]
    parse (Text.ofString "Dot(a)") = .ok tree ∧
      ∃ procedure, Procedure.ofTree tree = .ok procedure ∧
        (Context.SameEntries tree (ctx (giving (.int 1))) (ctx (giving (.int 2))) ∧
          (procedure.run (ctx (giving (.int 1))) [v]).result = .ok (some [.int 1]) ∧
          (procedure.run (ctx (giving (.int 2))) [v]).result = .ok (some [.int 2])) ∧
        ¬tree.MentionsClass other ∧
        (procedure.run (ctx (table.sumTypes classes)) [v]).result = .ok none ∧
        (procedure.run (ctx (registered.sumTypes classes)) [v]).result = .ok (some [.int 5]) := by
  intro dot other classes giving ctx table registered tree v
  have one : (run (ctx (giving (.int 1))) tree (.tuple [v])).result = .ok (some [.int 1]) := rfl
  have two : (run (ctx (giving (.int 2))) tree (.tuple [v])).result = .ok (some [.int 2]) := rfl
  have missed : (run (ctx (table.sumTypes classes)) tree (.tuple [v])).result = .ok none := rfl
  have matched : (run (ctx (registered.sumTypes classes)) tree (.tuple [v])).result =
      .ok (some [.int 5]) := rfl
  have read : parse (Text.ofString "Dot(a)") = .ok tree := rfl
  have entries : Context.SameEntries tree (ctx (giving (.int 1))) (ctx (giving (.int 2))) :=
    ⟨rfl, fun _ _ => rfl, fun _ _ _ => .rfl⟩
  have unmentioned : ¬tree.MentionsClass other := by
    intro mentioned
    have same : Text.ofString "Dot" = Text.ofString "Other" := mentionsClass_single.mp mentioned
    cases same
  obtain ⟨procedure, -, compiles⟩ := Procedure.exists_ofText read
  have runs := Procedure.run_ofTree read compiles
  refine ⟨read, procedure, compiles, ?_⟩
  rw [runs, runs, runs, runs]
  exact ⟨⟨entries, one, two⟩, unmentioned, missed, matched⟩

end Pattern.Parser

end PatternDispatch
