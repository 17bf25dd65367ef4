import PatternDispatch.Proofs.AgreeingContexts
import PatternDispatch.Proofs.EvaluationOrder
import PatternDispatch.Variants

/-!
Registering sum types. A name never loses a variant, so a value goes on belonging to the sum types
that it belonged to. It may come to belong to more, and then its slots take the place of what stood
for its components; for a value that had components these are the same, unless it is an object that
was only taken apart as the sequence it is. So a pattern that matches goes on matching.
-/

namespace PatternDispatch

theorem Table.find?_insertNew {α : Type} (t : Table α) (key other : Text) (value : α) :
    (t.insertNew key value).find? other =
      if other = key then some ((t.find? key).getD value) else t.find? other := by
  unfold insertNew contains
  cases known : t.find? key with
  | none => simp [find?_insert]
  | some found =>
    by_cases same : other = key
    · simp [same, known]
    · simp [same]

namespace Variants

variable {classes : ClassTable} {name : Text} {variants : List Text} {types later : Variants}

/-! ## Ways to register -/

/-- The table after variants were added to a name, each of them also under its own name. -/
def entered (name : Text) (variants : List Text) (types : Variants) : Variants :=
  variants.foldl (fun found variant => found.insertNew variant [variant])
    (types.insert name ((types.find? name).getD [] ++ variants))

/-- How a registration can go: all variants are entered, or the table stays as it is because one of
them exposes no slots. -/
inductive Registering (classes : ClassTable) (name : Text) (variants : List Text)
    (types : Variants) : Ran Variants Unit → Prop where
  | refused {variant : Text} (member : variant ∈ variants)
      (exposesNone : classSlotNames? classes variant = none) :
      Registering classes name variants types ⟨types, [], .error (.noSlots variant)⟩
  | entered (exposed : ∀ variant ∈ variants, (classSlotNames? classes variant).isSome = true) :
      Registering classes name variants types
        ⟨types.entered name variants, [.sumTypeRegistered name variants], .ok ()⟩

theorem registering (classes : ClassTable) (name : Text) (variants : List Text)
    (types : Variants) :
    Registering classes name variants types (register classes name variants types) := by
  unfold register
  cases found : variants.find? fun variant => (classSlotNames? classes variant).isNone with
  | some variant =>
    have exposesNone := List.find?_some found
    exact .refused (List.mem_of_find?_eq_some found) (Option.isNone_iff_eq_none.mp exposesNone)
  | none =>
    refine .entered fun variant member => ?_
    have exposes := List.find?_eq_none.mp found variant member
    rw [Option.isNone_iff_eq_none] at exposes
    exact Option.isSome_iff_ne_none.mpr exposes

/-- A variant that has no entry comes to stand for itself. -/
theorem find?_foldl (variants : List Text) (types : Variants) (other : Text) :
    (variants.foldl (fun found variant => found.insertNew variant [variant]) types).find? other =
      if other ∈ variants then some ((types.find? other).getD [other]) else types.find? other := by
  induction variants generalizing types with
  | nil => rfl
  | cons variant variants ih =>
    rw [List.foldl_cons, ih, Table.find?_insertNew]
    by_cases first : other = variant
    · subst first
      simp
    · simp [first]

/-- What every name stands for once variants were added to one. -/
theorem find?_entered (name : Text) (variants : List Text) (types : Variants) (other : Text) :
    (types.entered name variants).find? other =
      if other = name then some ((types.find? name).getD [] ++ variants)
      else if other ∈ variants then some ((types.find? other).getD [other])
      else types.find? other := by
  rw [entered, find?_foldl, Table.find?_insert]
  by_cases named : other = name
  · simp [named]
  · simp [named]

/-! ## What is kept -/

/-- Every name stands at least for what it stood for, and in the same order. -/
def Extends (types later : Variants) : Prop :=
  ∀ name, (types.find? name).getD [] <+: (later.find? name).getD []

theorem Extends.refl (types : Variants) : types.Extends types := fun _ => List.prefix_rfl

theorem Extends.trans {last : Variants} (first : types.Extends later)
    (second : later.Extends last) : types.Extends last :=
  fun name => (first name).trans (second name)

theorem extends_insert (types : Variants) (name : Text) (variants : List Text) :
    types.Extends (types.insert name ((types.find? name).getD [] ++ variants)) := by
  intro other
  rw [Table.find?_insert]
  split
  · next same =>
    rw [same, Option.getD_some]
    exact List.prefix_append _ _
  · exact List.prefix_rfl

theorem extends_insertNew (types : Variants) (name : Text) (variants : List Text) :
    types.Extends (types.insertNew name variants) := by
  intro other
  rw [Table.find?_insertNew]
  split
  · next same =>
    rw [same, Option.getD_some]
    cases types.find? name with
    | none => exact List.nil_prefix
    | some found => exact List.prefix_rfl
  · exact List.prefix_rfl

theorem extends_foldl (variants : List Text) (types : Variants) :
    types.Extends
      (variants.foldl (fun found variant => found.insertNew variant [variant]) types) := by
  induction variants generalizing types with
  | nil => exact .refl types
  | cons variant variants ih => exact (extends_insertNew types variant [variant]).trans (ih _)

theorem extends_entered (name : Text) (variants : List Text) (types : Variants) :
    types.Extends (types.entered name variants) :=
  (extends_insert types name variants).trans (extends_foldl variants _)

/-- One registration loses no variant, whether it succeeds or not. -/
theorem extends_register (classes : ClassTable) (name : Text) (variants : List Text)
    (types : Variants) : types.Extends (register classes name variants types).state := by
  have registering := registering classes name variants types
  generalize register classes name variants types = ran at registering
  cases registering with
  | refused => exact .refl types
  | entered => exact extends_entered name variants types

/-- What one registration keeps, whether it succeeds or not, any number of them keep. -/
theorem registerAll_keeps {classes : ClassTable} {Kept : Variants → Prop}
    (step : ∀ name variants types, Kept types → Kept (register classes name variants types).state)
    (calls : List (Text × List Text)) {types : Variants} (kept : Kept types) :
    Kept (registerAll classes calls types).state := by
  induction calls generalizing types with
  | nil => exact kept
  | cons call calls ih =>
    obtain ⟨name, variants⟩ := call
    have first := step name variants types kept
    rw [registerAll]
    cases ran : register classes name variants types with
    | mk next outcome =>
      obtain ⟨events, result⟩ := outcome
      rw [ran] at first
      cases result with
      | error failure =>
        rw [Action.bind_of_error ran]
        exact first
      | ok done =>
        rw [Action.bind_of_ok ran]
        exact ih first

/-- Any number of registrations lose no variant. -/
theorem extends_registerAll (classes : ClassTable) (calls : List (Text × List Text))
    (types : Variants) : types.Extends (registerAll classes calls types).state :=
  registerAll_keeps (fun name variants next kept =>
    kept.trans (extends_register classes name variants next)) calls (.refl types)

/-! ## What is entered -/

/-- Every class that a name stands for exposes slots. -/
def Exposing (classes : ClassTable) (types : Variants) : Prop :=
  ∀ name, ∀ variant ∈ (types.find? name).getD [], (classSlotNames? classes variant).isSome = true

theorem exposing_empty (classes : ClassTable) : Exposing classes .empty := nofun

theorem Exposing.insert (exposing : Exposing classes types)
    (exposed : ∀ variant ∈ variants, (classSlotNames? classes variant).isSome = true) :
    Exposing classes (types.insert name variants) := by
  intro other variant member
  rw [Table.find?_insert] at member
  split at member
  · exact exposed variant member
  · exact exposing other variant member

theorem Exposing.insertNew (exposing : Exposing classes types) {variant : Text}
    (exposes : (classSlotNames? classes variant).isSome = true) :
    Exposing classes (types.insertNew variant [variant]) := by
  unfold Table.insertNew
  split
  · exact exposing
  · exact exposing.insert (List.forall_mem_singleton.mpr exposes)

theorem Exposing.entered (exposing : Exposing classes types)
    (exposed : ∀ variant ∈ variants, (classSlotNames? classes variant).isSome = true) :
    Exposing classes (types.entered name variants) := by
  have named : Exposing classes (types.insert name ((types.find? name).getD [] ++ variants)) :=
    exposing.insert fun variant member =>
      (List.mem_append.mp member).elim (exposing name variant) (exposed variant)
  unfold Variants.entered
  generalize types.insert name ((types.find? name).getD [] ++ variants) = next at named
  induction variants generalizing next with
  | nil => exact named
  | cons variant variants ih =>
    obtain ⟨first, others⟩ := List.forall_mem_cons.mp exposed
    exact ih others _ (named.insertNew first)

theorem Exposing.register (exposing : Exposing classes types) (name : Text)
    (variants : List Text) : Exposing classes (register classes name variants types).state := by
  have registering := registering classes name variants types
  generalize Variants.register classes name variants types = ran at registering
  cases registering with
  | refused => exact exposing
  | entered exposed => exact exposing.entered exposed

/-- Whatever is registered, all variants expose slots. -/
theorem exposing_registerAll (classes : ClassTable) (calls : List (Text × List Text)) :
    Exposing classes (registerAll classes calls .empty).state :=
  registerAll_keeps (fun name variants _ exposing => exposing.register name variants) calls
    (exposing_empty classes)

end Variants

/-! ## What a context answers later -/

/-- An object that is a sequence and whose class does not say what its positional components are. -/
def Value.IsBareSequence (classes : ClassTable) (v : Value) : Prop :=
  v.isSequence = true ∧
    ∃ c, v.class? classes = some c ∧ c.positionalHook? = none ∧ c.matchArgs? = none

namespace Context

variable {ctx : Context} {types? : Option Variants} {types : SumTypes} {later : Variants}
  {v : Value} {name : Text}

/-- A value of a sum type is an object of a class that derives from a variant. -/
theorem isVariant_iff : ctx.isVariant v name = true ↔ ∃ types c variant,
    ctx.sumTypes? = some types ∧ v.class? ctx.classes = some c ∧
      variant ∈ (types.find? name).getD [] ∧ variant ∈ c.lineage := by
  unfold Context.isVariant
  cases ctx.sumTypes? with
  | none => simp
  | some types =>
    simp only [List.any_eq_true, isInstance]
    cases v.class? ctx.classes <;> simp

/-- A value of a sum type belongs to it later. -/
theorem isVariant_later (uses : ctx.UsesTable types?) (kept : (types?.getD .empty).Extends later)
    (isVariant : ctx.isVariant v name = true) :
    (ctx.withSumTypes later).isVariant v name = true := by
  obtain ⟨types, c, variant, known, isClass, member, derives⟩ := isVariant_iff.mp isVariant
  obtain ⟨table, rfl, rfl⟩ := uses.exists_table known
  exact isVariant_iff.mpr ⟨_, c, variant, rfl, isClass, (kept name).subset member, derives⟩

theorem typeMatches_later (uses : ctx.UsesTable types?) (kept : (types?.getD .empty).Extends later)
    (holds : ctx.typeMatches v name = true) :
    (ctx.withSumTypes later).typeMatches v name = true := by
  unfold Context.typeMatches at holds ⊢
  rw [Bool.or_eq_true] at holds ⊢
  exact holds.imp id (isVariant_later uses kept)

/-- What the hook of a class answers does not depend on the sum types. -/
theorem positional_of_hook {hook : Hook}
    (found : (v.class? ctx.classes).bind (·.positionalHook?) = some hook) :
    ctx.positional v name = (do
      Traced.note (.componentsAsked v)
      Traced.ofExcept (ctx.hookAnswer hook v)) := by
  unfold Context.positional
  rw [found]

theorem positional_of_variant (noHook : (v.class? ctx.classes).bind (·.positionalHook?) = none)
    (known : ctx.sumTypes? = some types) (isVariant : ctx.isVariant v name = true) :
    ctx.positional v name = Traced.ofExcept ((types.slots v).map some) := by
  unfold Context.positional
  rw [noHook, known, isVariant]

/-- A value that belongs to no sum type of a name has the components that its class says, or those
that it has as a sequence. -/
theorem positional_of_other (noHook : (v.class? ctx.classes).bind (·.positionalHook?) = none)
    (other : ctx.isVariant v name = false) :
    ctx.positional v name =
      match positional.matchArgs? ctx v with
      | some names =>
        Traced.ofExcept ((v.getAttributes ctx.classes names).map fun items => some (.list items))
      | none => pure (if v.isSequence then some v else none) := by
  unfold Context.positional
  rw [noHook, other]
  cases ctx.sumTypes? <;> rfl

theorem slotNames_of_class {c : Class} (found : v.class? ctx.classes = some c) :
    v.slotNames? ctx.classes = c.matchArgs?.or c.dataFields? := by
  cases v with
  | pass value => cases found
  | _ => simp only [Value.slotNames?, found]

/-- The slots of an object with attributes that stand for its components are those attributes. -/
theorem slots_of_matchArgs {c : Class} {names : List Text} (found : v.class? ctx.classes = some c)
    (args : c.matchArgs? = some names) :
    (later.sumTypes ctx.classes).slots v = (v.getAttributes ctx.classes names).map .list := by
  rw [Variants.slots_sumTypes, Variants.slotNames, slotNames_of_class found, args]
  rfl

theorem matchArgs_of_class {c : Class} (found : v.class? ctx.classes = some c) :
    positional.matchArgs? ctx v = c.matchArgs? := by
  cases v with
  | pass value => cases found
  | _ => simp [positional.matchArgs?, found]

/-- A value that has components keeps them when it comes to belong to a sum type. -/
theorem positional_later {found : Value} (uses : ctx.UsesTable types?)
    (kept : (types?.getD .empty).Extends later)
    (notBare : ¬v.IsBareSequence ctx.classes)
    (answered : (ctx.positional v name).result = .ok (some found)) :
    (ctx.withSumTypes later).positional v name = ctx.positional v name := by
  cases hooked : (v.class? ctx.classes).bind (·.positionalHook?) with
  | some hook =>
    rw [positional_of_hook hooked]
    exact positional_of_hook hooked
  | none =>
    cases isVariant : ctx.isVariant v name with
    | true =>
      obtain ⟨types, -, -, known, -⟩ := isVariant_iff.mp isVariant
      obtain ⟨table, -, rfl⟩ := uses.exists_table known
      rw [positional_of_variant hooked known isVariant, Variants.slots_sumTypes,
        ← Variants.slots_sumTypes later]
      exact positional_of_variant hooked rfl (isVariant_later uses kept isVariant)
    | false =>
      rw [positional_of_other hooked isVariant] at answered ⊢
      cases becomes : (ctx.withSumTypes later).isVariant v name with
      | false => exact positional_of_other hooked becomes
      | true =>
        -- Only here is another place asked later: the slots of the class, and no longer the value.
        obtain ⟨-, c, -, -, isClass, -⟩ := isVariant_iff.mp becomes
        change v.class? ctx.classes = some c at isClass
        have noHook : c.positionalHook? = none := by
          rw [isClass] at hooked
          exact hooked
        rw [matchArgs_of_class isClass] at answered ⊢
        cases args : c.matchArgs? with
        | some names =>
          have answers : (ctx.withSumTypes later).positional v name =
              Traced.ofExcept (((later.sumTypes ctx.classes).slots v).map some) :=
            positional_of_variant hooked rfl becomes
          rw [answers, slots_of_matchArgs isClass args]
          dsimp only
          cases v.getAttributes ctx.classes names <;> rfl
        | none =>
          rw [args] at answered
          by_cases isSequence : v.isSequence = true
          · exact absurd ⟨isSequence, c, isClass, noHook, args⟩ notBare
          · rw [if_neg isSequence] at answered
            cases answered

end Context

namespace Matching

variable {ctx : Context} {types? : Option Variants} {later : Variants} {p : Pattern} {v : Value}
  {captures : List Value}

/-- A match comes to all its visits, and each of them lets it go on. -/
theorem goesOn_of_matched (matched : (run ctx p v).result = .ok (some captures)) :
    ∀ visit ∈ visits ctx p v, visit.goesOn ctx = true := by
  rcases run_ends ctx p v with ⟨all, -⟩ | ⟨before, stop, after, -, -, -, ended⟩
  · exact all
  · rcases ended with ⟨-, missed⟩ | ⟨failure, -, raised⟩
    · cases matched.symm.trans missed
    · cases matched.symm.trans raised

theorem Visit.outcome_of_goesOn {visit : Visit} (goesOn : visit.goesOn ctx = true) :
    (visit.outcome ctx).result = .ok true := by
  unfold Visit.goesOn at goesOn
  split at goesOn
  · next holds ended => rw [ended, goesOn]
  · cases goesOn

/-- A visit that lets a match go on is answered alike when more sum types are registered. -/
theorem Visit.agrees_later {visit : Visit} (uses : ctx.UsesTable types?)
    (kept : (types?.getD .empty).Extends later)
    (notBare : ∀ name w, visit = .components name w → ¬w.IsBareSequence ctx.classes)
    (goesOn : visit.goesOn ctx = true) : visit.Agrees ctx (ctx.withSumTypes later) := by
  cases visit with
  | test | comparison | sequence | mapping => trivial
  | className name w =>
    have holds : ctx.typeMatches w name = true := goesOn
    exact (Context.typeMatches_later uses kept holds).trans holds.symm
  | components name w =>
    have answered := outcome_of_goesOn goesOn
    rw [Visit.outcome, Traced.map_eq] at answered
    obtain ⟨found, answered⟩ := map_isSome_eq_true answered
    exact Context.positional_later uses kept (notBare name w rfl) answered
  | entries w => rfl
  | extractor name w => rfl

end Matching

namespace Pattern.Parser

open Matching

/-- Registering sum types keeps every match. If a pattern that is read from text matches, then it
matches with the same captures and the same calls after any further registrations that succeed,
where there was a table of sum types before or none. The one condition is on the values that the
run asks for positional components: none is an object that is a sequence and whose class has neither
a hook nor attributes for them. -/
theorem registering_keeps_matches {text : Text} {tree : Pattern} (read : parse text = .ok tree) :
    ∃ procedure, Procedure.ofTree tree = .ok procedure ∧
      ∀ (ctx : Context) (types? : Option Variants) (calls : List (Text × List Text))
        (later : Variants) (events : List Event) (arguments captures : List Value),
        ctx.UsesTable types? →
        Variants.registerAll ctx.classes calls (types?.getD .empty) = ⟨later, events, .ok ()⟩ →
        (∀ name w, .components name w ∈ visits ctx tree (.tuple arguments) →
          ¬w.IsBareSequence ctx.classes) →
        (procedure.run ctx arguments).result = .ok (some captures) →
        procedure.run (ctx.withSumTypes later) arguments =
          ⟨(procedure.run ctx arguments).events, .ok (some captures)⟩ := by
  obtain ⟨procedure, -, compiles⟩ := Procedure.exists_ofText read
  refine ⟨procedure, compiles, ?_⟩
  intro ctx types? calls later events arguments captures uses ran notBare matched
  have kept : (types?.getD .empty).Extends later := by
    have extends_ := Variants.extends_registerAll ctx.classes calls (types?.getD .empty)
    rwa [ran] at extends_
  have same := Procedure.run_ofTree read compiles
  rw [same] at matched
  have agree : Agree ctx (ctx.withSumTypes later) (visits ctx tree (.tuple arguments)) := by
    intro visit member
    refine Visit.agrees_later uses kept ?_ (goesOn_of_matched matched visit member)
    rintro name w rfl
    exact notBare name w member
  rw [same, same, run_agrees tree _ agree, ← matched]

/-- An object that is taken apart by the attributes of its class is taken apart in the same way when
the class becomes a variant. -/
theorem registering_keeps_matches_variant :
    let name := Text.ofString "Some"
    let classes := ClassTable.declare .empty
      { name := name, base? := none, layout? := none, isData := true
        fields := [Text.ofString "value"], secondName := none, matchArgs := none
        omitsMatchArgs := false, isCallable := false, positionalHook := none, keyedHook := none
        asFields := none }
    let ctx : Context := ⟨classes, .empty, none⟩
    let five : Value := .record name [(Text.ofString "value", .int 5)]
    let later : Variants := ⟨[(Text.ofString "Option", [name]), (name, [name])]⟩
    let tree : Pattern := .argumentList [.tagArray name [.identifier (Text.ofString "x")]]
    ∃ procedure, Procedure.ofTree tree = .ok procedure ∧
      Variants.registerAll classes [(Text.ofString "Option", [name])] .empty =
        ⟨later, [.sumTypeRegistered (Text.ofString "Option") [name]], .ok ()⟩ ∧
      (procedure.run ctx [five]).result = .ok (some [.int 5]) ∧
      procedure.run (ctx.withSumTypes later) [five] =
        ⟨(procedure.run ctx [five]).events, .ok (some [.int 5])⟩ := by
  intro name classes ctx five later tree
  have read : parse (Text.ofString "Some(x)") = .ok tree := rfl
  obtain ⟨procedure, compiles, keeps⟩ := registering_keeps_matches read
  have matched : (procedure.run ctx [five]).result = .ok (some [.int 5]) := by
    rw [Procedure.run_ofTree read compiles]
    rfl
  have registered : Variants.registerAll classes [(Text.ofString "Option", [name])] .empty =
      ⟨later, [.sumTypeRegistered (Text.ofString "Option") [name]], .ok ()⟩ := rfl
  refine ⟨procedure, compiles, registered, matched, ?_⟩
  refine keeps ctx none [(Text.ofString "Option", [name])] later _ [five] [.int 5] rfl registered ?_
    matched
  intro asked w member bare
  have visited : visits ctx tree (.tuple [five]) =
      [.sequence [.tagArray name [.identifier (Text.ofString "x")]] (.tuple [five]),
        .className name five, .components name five,
        .sequence [.identifier (Text.ofString "x")] (.list [.int 5])] := rfl
  rw [visited] at member
  simp only [List.mem_cons, reduceCtorEq, Visit.components.injEq, List.not_mem_nil, or_false,
    false_or] at member
  obtain ⟨-, rfl⟩ := member
  cases bare.1

end Pattern.Parser

end PatternDispatch
