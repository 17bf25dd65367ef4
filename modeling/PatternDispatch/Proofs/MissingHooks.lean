import PatternDispatch.Proofs.RegisteredSumTypes

/-!
Where asking a value for its components fails. A value without hooks, attributes and contents of its
own has none, and a class pattern passes over it. What can fail beside a hook is one of two things:
an object of a variant whose own class exposes no slots, and a fields method that is found where it
cannot be called.
-/

namespace PatternDispatch

namespace AttributeReader

variable {read : AttributeReader} {names : List Text}

theorem list_total (present : ∀ name ∈ names, ∃ value, read name = .ok value) :
    ∃ values, read.list names = .ok values := by
  induction names with
  | nil => exact ⟨[], rfl⟩
  | cons name names ih =>
    obtain ⟨first, others⟩ := List.forall_mem_cons.mp present
    obtain ⟨value, one⟩ := first
    obtain ⟨values, rest⟩ := ih others
    exact ⟨value :: values, by simp only [list, one, rest]⟩

end AttributeReader

namespace Value

variable {classes : ClassTable} {v : Value} {names : List Text}

/-- Attributes of all these names are found on a value. -/
def HasAll (classes : ClassTable) (v : Value) (names : List Text) : Prop :=
  ∀ name ∈ names, (v.attribute? classes name).isSome = true

theorem HasAll.getAttributes (present : v.HasAll classes names) :
    ∃ values, v.getAttributes classes names = .ok values := by
  refine AttributeReader.list_total fun name member => ?_
  obtain ⟨value, found⟩ := Option.isSome_iff_exists.mp (present name member)
  exact ⟨value, by simp only [getAttribute, found]⟩

theorem HasAll.fieldMap (present : v.HasAll classes names) :
    ∃ fields, v.fieldMap classes names = .ok fields := by
  obtain ⟨values, read⟩ := present.getAttributes
  have list : AttributeReader.list (v.getAttribute classes) names = .ok values := read
  exact ⟨_, by rw [Value.fieldMap, AttributeReader.map, list]; rfl⟩

/-- What an object holds itself is found on it. -/
theorem hasAll_attributes (classes : ClassTable) (v : Value) :
    v.HasAll classes (v.attributes.map (·.1)) := by
  intro name member
  have held : v.attributes.lookup name ≠ none := fun none => Table.lookup_eq_none_iff.mp none member
  rw [attribute?, Option.isSome_or, Option.isSome_iff_ne_none.mpr held, Bool.true_or]

end Value

namespace Context

variable {ctx : Context} {v : Value} {name : Text}

/-- The method that lists the fields of an object by name. -/
def fieldsMethod : Text := Text.ofString "_asdict"

/-- The attributes that stand for the components of a value are there. -/
structure Complete (ctx : Context) (v : Value) : Prop where
  matchArgs : ∀ names, positional.matchArgs? ctx v = some names → v.HasAll ctx.classes names
  dataFields : ∀ names, ctx.dataFields? v = some names → v.HasAll ctx.classes names

theorem hookAnswer_error_iff {hook : Hook} {failure : Failure} :
    ctx.hookAnswer hook v = .error failure ↔ v.applyHook ctx.classes hook = .error failure := by
  unfold hookAnswer
  split
  · next failed => rw [failed, Except.error.injEq, Except.error.injEq]
  · next answered => simp [answered]
  · next answered => simp [answered]

/-- The slots of a value are the attributes that stand for its components, or else its fields. -/
theorem slotNames_eq (ctx : Context) (v : Value) :
    v.slotNames? ctx.classes = (positional.matchArgs? ctx v).or (ctx.dataFields? v) := by
  cases v with
  | pass value => rfl
  | _ =>
    simp only [Value.slotNames?, positional.matchArgs?, dataFields?]
    split
    · next none => simp [none]
    · next c found => simp [found]

/-! ## Positional components -/

/-- Why a value has no answer to the question for its positional components. -/
inductive PositionalFault (ctx : Context) (v : Value) (name : Text) : Failure → Prop
  /-- The hook of its class fails. -/
  | hook {hook : Hook} {failure : Failure}
      (found : (v.class? ctx.classes).bind (·.positionalHook?) = some hook)
      (failed : v.applyHook ctx.classes hook = .error failure) :
      PositionalFault ctx v name failure
  /-- Its class derives from a variant that exposes slots and is not this variant. -/
  | slotless {types : SumTypes} {variant : Text} {c : Class}
      (isClass : v.class? ctx.classes = some c) (noHook : c.positionalHook? = none)
      (registered : ctx.sumTypes? = some types) (member : variant ∈ (types.find? name).getD [])
      (derives : variant ∈ c.lineage) (other : v.className? ≠ some variant)
      (exposes : (Variants.classSlotNames? ctx.classes variant).isSome = true)
      (hides : c.matchArgs? = none ∧ c.dataFields? = none) :
      PositionalFault ctx v name (.noSlots v.typeName)

/-- The slots of a complete value are missing only if its class exposes none. -/
theorem slots_error_iff (complete : ctx.Complete v) (table : Variants) {failure : Failure} :
    (table.sumTypes ctx.classes).slots v = .error failure ↔
      v.slotNames? ctx.classes = none ∧ failure = .noSlots v.typeName := by
  rw [Variants.slots_sumTypes, Variants.slotNames]
  cases exposed : v.slotNames? ctx.classes with
  | none => simp [eq_comm]
  | some names =>
    have present : v.HasAll ctx.classes names := by
      rw [slotNames_eq, Option.or_eq_some_iff] at exposed
      exact exposed.elim (complete.matchArgs names) fun fields => complete.dataFields names fields.2
    obtain ⟨values, read⟩ := present.getAttributes
    simp [read, Except.map]

/-- The sum types of a context are those of a new table in which some were registered, or there are
none. -/
def Registered (ctx : Context) : Prop :=
  ∀ types, ctx.sumTypes? = some types → ∃ table calls events,
    types = table.sumTypes ctx.classes ∧
      Variants.registerAll ctx.classes calls .empty = ⟨table, events, .ok ()⟩

theorem Registered.exposes (registered : ctx.Registered) {types : SumTypes}
    (known : ctx.sumTypes? = some types) :
    ∃ table : Variants, types = table.sumTypes ctx.classes ∧
      Variants.Exposing ctx.classes table := by
  obtain ⟨table, calls, events, same, ran⟩ := registered types known
  have exposing := Variants.exposing_registerAll ctx.classes calls
  rw [ran] at exposing
  exact ⟨table, same, exposing⟩

/-- The components of a complete value are missing only at a hook or at the slots of a variant. -/
theorem positional_error_iff (registered : ctx.Registered) (complete : ctx.Complete v)
    {failure : Failure} :
    (ctx.positional v name).result = .error failure ↔
      (∃ hook, (v.class? ctx.classes).bind (·.positionalHook?) = some hook ∧
        v.applyHook ctx.classes hook = .error failure) ∨
      (v.class? ctx.classes).bind (·.positionalHook?) = none ∧ ctx.isVariant v name = true ∧
        v.slotNames? ctx.classes = none ∧ failure = .noSlots v.typeName := by
  cases hooked : (v.class? ctx.classes).bind (·.positionalHook?) with
  | some hook =>
    rw [positional_of_hook hooked]
    have asked : ctx.hookAnswer hook v = .error failure ↔ _ := hookAnswer_error_iff
    exact asked.trans (by simp)
  | none =>
    cases isVariant : ctx.isVariant v name with
    | true =>
      obtain ⟨types, -, -, known, -⟩ := isVariant_iff.mp isVariant
      obtain ⟨table, rfl, -⟩ := registered.exposes known
      rw [positional_of_variant hooked known isVariant]
      have slots : ((table.sumTypes ctx.classes).slots v).map some = .error failure ↔ _ :=
        Matching.map_eq_error.trans (slots_error_iff complete table)
      exact slots.trans (by simp)
    | false =>
      rw [positional_of_other hooked isVariant]
      cases args : positional.matchArgs? ctx v with
      | none => simp [pure]
      | some names =>
        obtain ⟨values, read⟩ := (complete.matchArgs names args).getAttributes
        simp [read, Traced.ofExcept, Except.map]

theorem positional_fault_iff (registered : ctx.Registered) (complete : ctx.Complete v)
    {failure : Failure} :
    (ctx.positional v name).result = .error failure ↔ ctx.PositionalFault v name failure := by
  rw [positional_error_iff registered complete]
  constructor
  · rintro (⟨hook, found, failed⟩ | ⟨noHook, isVariant, noSlots, rfl⟩)
    · exact .hook found failed
    · obtain ⟨types, c, variant, known, isClass, member, derives⟩ := isVariant_iff.mp isVariant
      obtain ⟨table, rfl, exposing⟩ := registered.exposes known
      have exposes := exposing name variant member
      rw [slotNames_of_class isClass] at noSlots
      have hides := Option.or_eq_none_iff.mp noSlots
      have other : v.className? ≠ some variant := by
        intro same
        have isEntry : ctx.classes.find? variant = some c := by
          rwa [Value.class?, same] at isClass
        rw [Variants.classSlotNames?, isEntry, Option.bind_some, noSlots] at exposes
        cases exposes
      rw [isClass] at noHook
      exact .slotless isClass noHook known member derives other exposes hides
  · intro fault
    cases fault with
    | hook found failed => exact .inl ⟨_, found, failed⟩
    | @slotless types variant c isClass noHook known member derives other exposes hides =>
      refine .inr ⟨by rw [isClass]; exact noHook, ?_, ?_, rfl⟩
      · exact isVariant_iff.mpr ⟨types, c, variant, known, isClass, member, derives⟩
      · rw [slotNames_of_class isClass]
        exact Option.or_eq_none_iff.mpr hides

/-! ## Keyed components -/

/-- Why a value has no answer to the question for its keyed components. -/
inductive KeyedFault (ctx : Context) (v : Value) : Failure → Prop
  /-- The hook of its class fails. -/
  | hook {hook : Hook} {failure : Failure}
      (found : (v.class? ctx.classes).bind (·.keyedHook?) = some hook)
      (failed : v.applyHook ctx.classes hook = .error failure) : KeyedFault ctx v failure
  /-- It is a class, and the fields method of the class is found on it. -/
  | ofClass {className typeName owner : Text} {method : FieldsMethod}
      (isClass : v = .classRef className typeName)
      (found : (ctx.classes.find? className).bind (·.asFields?) = some (owner, method)) :
      KeyedFault ctx v (.unboundMethod owner fieldsMethod)
  /-- It holds something else where the fields method would be found. -/
  | own {found : Value} {failure : Failure}
      (noHook : (v.class? ctx.classes).bind (·.keyedHook?) = none)
      (noFields : ctx.dataFields? v = none)
      (held : v.attributes.lookup fieldsMethod = some found) (present : found ≠ .null)
      (failed : found.call ctx.classes [] = .error failure) : KeyedFault ctx v failure
  /-- The fields method of its class is a function that fails. -/
  | method {owner : Text} {run : Hook} {failure : Failure}
      (noHook : (v.class? ctx.classes).bind (·.keyedHook?) = none)
      (noFields : ctx.dataFields? v = none)
      (held : v.attributes.lookup fieldsMethod = none)
      (found : (v.class? ctx.classes).bind (·.asFields?) = some (owner, .hook run))
      (failed : v.applyHook ctx.classes run = .error failure) : KeyedFault ctx v failure

/-- The ways to find the fields method of a value. -/
inductive FieldsCourse (ctx : Context) (v : Value) : Traced (Option Value) → Prop
  | ofClass {className typeName owner : Text} {method : FieldsMethod}
      (isClass : v = .classRef className typeName)
      (found : (ctx.classes.find? className).bind (·.asFields?) = some (owner, method)) :
      FieldsCourse ctx v (Traced.fail (.unboundMethod owner fieldsMethod))
  | own {found : Value} (held : v.attributes.lookup fieldsMethod = some found)
      (present : found ≠ .null) :
      FieldsCourse ctx v (do
        Traced.note (.fieldsAsked v)
        Traced.ofExcept ((found.call ctx.classes []).map some))
  | generated {owner : Text} (held : v.attributes.lookup fieldsMethod = none)
      (found : (v.class? ctx.classes).bind (·.asFields?) = some (owner, .generated)) :
      FieldsCourse ctx v (do
        Traced.note (.fieldsAsked v)
        Traced.ofExcept ((v.fieldMap ctx.classes (v.attributes.map (·.1))).map some))
  | method {owner : Text} {run : Hook} (held : v.attributes.lookup fieldsMethod = none)
      (found : (v.class? ctx.classes).bind (·.asFields?) = some (owner, .hook run)) :
      FieldsCourse ctx v (do
        Traced.note (.fieldsAsked v)
        Traced.ofExcept ((v.applyHook ctx.classes run).map some))
  | absent
      (noAttribute : ∀ own, v.attributes.lookup fieldsMethod = some own → own = .null)
      (noMethod : v.attributes.lookup fieldsMethod = none →
        (v.class? ctx.classes).bind (·.asFields?) = none)
      (notOfClass : ∀ className typeName, v = .classRef className typeName →
        (ctx.classes.find? className).bind (·.asFields?) = none) :
      FieldsCourse ctx v (pure none)

theorem fieldsCourse (ctx : Context) (v : Value) : ctx.FieldsCourse v (ctx.asFields v) := by
  unfold asFields
  dsimp only
  split
  · next className typeName =>
    split
    · next owner method found => exact .ofClass rfl found
    · next none =>
      refine .absent nofun (fun _ => rfl) ?_
      rintro _ _ ⟨⟩
      exact none
  · next other held =>
    refine .absent ?_ ?_ ?_
    · intro own same
      exact Option.some.inj (same.symm.trans held)
    · intro none
      cases none.symm.trans held
    · rintro className typeName rfl
      cases held
  · next own present _ held => exact .own held present
  · next other held =>
    split
    · next none =>
      refine .absent ?_ (fun _ => none) ?_
      · intro own same
        cases held.symm.trans same
      · intro className typeName isClass
        exact absurd isClass (other className typeName)
    · next owner method found =>
      cases method with
      | generated => exact .generated held found
      | hook run => exact .method held found

theorem keyed_of_hook {hook : Hook}
    (found : (v.class? ctx.classes).bind (·.keyedHook?) = some hook) :
    ctx.keyed v = (do
      Traced.note (.entriesAsked v)
      Traced.ofExcept (ctx.hookAnswer hook v)) := by
  unfold keyed
  rw [found]

theorem keyed_of_fields {names : List Text}
    (noHook : (v.class? ctx.classes).bind (·.keyedHook?) = none)
    (fields : ctx.dataFields? v = some names) :
    ctx.keyed v = Traced.ofExcept ((v.fieldMap ctx.classes names).map some) := by
  unfold keyed
  rw [noHook]
  simp only [fields]

theorem keyed_of_method (noHook : (v.class? ctx.classes).bind (·.keyedHook?) = none)
    (noFields : ctx.dataFields? v = none) :
    ctx.keyed v = (do
      match ← ctx.asFields v with
      | some .null => pure none
      | some components => pure (some components)
      | none => pure (if v.isMapping then some v else none)) := by
  unfold keyed
  split
  · next hook found => cases found.symm.trans noHook
  · split
    · next names fields => cases fields.symm.trans noFields
    · rfl

/-- Without a hook and without fields, it is the fields method that fails. -/
theorem keyed_error_iff (noHook : (v.class? ctx.classes).bind (·.keyedHook?) = none)
    (noFields : ctx.dataFields? v = none) {failure : Failure} :
    (ctx.keyed v).result = .error failure ↔ (ctx.asFields v).result = .error failure := by
  rw [keyed_of_method noHook noFields, Traced.result_bind]
  cases asked : (ctx.asFields v).result with
  | error other => rfl
  | ok found =>
    constructor
    · intro failed
      dsimp only at failed
      split at failed <;> cases failed
    · nofun

theorem keyed_fault_iff (complete : ctx.Complete v) {failure : Failure} :
    (ctx.keyed v).result = .error failure ↔ ctx.KeyedFault v failure := by
  constructor
  · intro failed
    cases hooked : (v.class? ctx.classes).bind (·.keyedHook?) with
    | some hook =>
      rw [keyed_of_hook hooked] at failed
      exact .hook hooked (hookAnswer_error_iff.mp failed)
    | none =>
      cases fields : ctx.dataFields? v with
      | some names =>
        obtain ⟨map, read⟩ := (complete.dataFields names fields).fieldMap
        rw [keyed_of_fields hooked fields, read] at failed
        cases failed
      | none =>
        rw [keyed_error_iff hooked fields] at failed
        have course := fieldsCourse ctx v
        generalize ctx.asFields v = asked at course failed
        cases course with
        | ofClass isClass found =>
          cases failed
          exact .ofClass isClass found
        | own held present =>
          exact .own hooked fields held present (Matching.map_eq_error.mp failed)
        | generated held found =>
          obtain ⟨map, read⟩ := (Value.hasAll_attributes ctx.classes v).fieldMap
          rw [read] at failed
          cases failed
        | method held found =>
          exact .method hooked fields held found (Matching.map_eq_error.mp failed)
        | absent => cases failed
  · intro fault
    cases fault with
    | hook found failed =>
      rw [keyed_of_hook found]
      exact hookAnswer_error_iff.mpr failed
    | @ofClass className typeName owner method isClass found =>
      subst isClass
      rw [keyed_error_iff rfl rfl]
      have course := fieldsCourse ctx (.classRef className typeName)
      generalize ctx.asFields (.classRef className typeName) = asked at course ⊢
      cases course with
      | ofClass isClass other =>
        cases isClass
        cases found.symm.trans other
        rfl
      | own held => cases held
      | generated held none => cases none
      | method held none => cases none
      | absent noAttribute noMethod notOfClass =>
        cases found.symm.trans (notOfClass className typeName rfl)
    | own noHook noFields held present failed =>
      rw [keyed_error_iff noHook noFields]
      have course := fieldsCourse ctx v
      generalize ctx.asFields v = asked at course ⊢
      cases course with
      | ofClass isClass =>
        subst isClass
        cases held
      | own again =>
        cases held.symm.trans again
        exact Matching.map_eq_error.mpr failed
      | generated none => cases held.symm.trans none
      | method none => cases held.symm.trans none
      | absent noAttribute => exact absurd (noAttribute _ held) present
    | method noHook noFields held found failed =>
      rw [keyed_error_iff noHook noFields]
      have course := fieldsCourse ctx v
      generalize ctx.asFields v = asked at course ⊢
      cases course with
      | ofClass isClass =>
        subst isClass
        cases found
      | own again => cases held.symm.trans again
      | generated none other => cases found.symm.trans other
      | method none other =>
        cases found.symm.trans other
        exact Matching.map_eq_error.mpr failed
      | absent noAttribute noMethod => cases found.symm.trans (noMethod held)

/-! ## No components at all -/

/-- A value has nothing that would stand for its positional components under a name. -/
structure NoPositional (ctx : Context) (v : Value) (name : Text) : Prop where
  noHook : (v.class? ctx.classes).bind (·.positionalHook?) = none
  noVariant : ctx.isVariant v name = false
  noArgs : positional.matchArgs? ctx v = none
  noSequence : v.isSequence = false

/-- A value has nothing that would stand for its keyed components. -/
structure NoKeyed (ctx : Context) (v : Value) : Prop where
  noHook : (v.class? ctx.classes).bind (·.keyedHook?) = none
  noFields : ctx.dataFields? v = none
  noAttribute : ∀ own, v.attributes.lookup fieldsMethod = some own → own = .null
  noMethod : v.attributes.lookup fieldsMethod = none →
    (v.class? ctx.classes).bind (·.asFields?) = none
  notOfClass : ∀ className typeName, v = .classRef className typeName →
    (ctx.classes.find? className).bind (·.asFields?) = none
  noMapping : v.isMapping = false

theorem NoPositional.answer (missing : ctx.NoPositional v name) :
    ctx.positional v name = pure none := by
  rw [positional_of_other missing.noHook missing.noVariant, missing.noArgs]
  simp [missing.noSequence]

theorem NoKeyed.answer (missing : ctx.NoKeyed v) : ctx.keyed v = pure none := by
  have noMethod : ctx.asFields v = pure none := by
    have course := fieldsCourse ctx v
    generalize ctx.asFields v = asked at course ⊢
    cases course with
    | ofClass isClass found => cases found.symm.trans (missing.notOfClass _ _ isClass)
    | own held present => exact absurd (missing.noAttribute _ held) present
    | generated held found => cases found.symm.trans (missing.noMethod held)
    | method held found => cases found.symm.trans (missing.noMethod held)
    | absent => rfl
  rw [keyed_of_method missing.noHook missing.noFields, noMethod]
  simp [missing.noMapping]

end Context

namespace Matching

variable {ctx : Context} {v : Value}

/-- When taking a value apart fails. The sum types of the context come from a table, and the
attributes that stand for components of the value are there. Beside a hook that fails, asking for
positional components fails only on an object of another class than a variant of the name, which
derives from the variant and exposes no slots; asking for keyed components fails only where the
fields method is found on a class itself, or where an attribute of the object that cannot be called
hides it. A value that has nothing for its components is passed over without a question. -/
theorem deconstruction_fails_iff (registered : ctx.Registered) (complete : ctx.Complete v)
    (name : Text) :
    (∀ failure,
      (ctx.positional v name).result = .error failure ↔ ctx.PositionalFault v name failure) ∧
      (∀ failure, (ctx.keyed v).result = .error failure ↔ ctx.KeyedFault v failure) ∧
      ∀ items,
        (ctx.NoPositional v name → run ctx (.tagArray name items) v = mismatch) ∧
          (ctx.NoKeyed v → run ctx (.tagObject name items) v = mismatch) := by
  refine ⟨fun failure => Context.positional_fault_iff registered complete,
    fun failure => Context.keyed_fault_iff complete, fun items => ⟨?_, ?_⟩⟩
  · intro missing
    rw [run, missing.answer, overComponents]
    split <;> rfl
  · intro missing
    rw [run, missing.answer, overComponents]
    split <;> rfl

/-- `Dot` derives from the variant `Base` and takes its slots away. As an object of the sum type it
has no components, and as an object by itself it is passed over. -/
theorem deconstruction_fails_iff_dot :
    let base := Text.ofString "Base"
    let dot := Text.ofString "Dot"
    let shape := Text.ofString "Shape"
    let plain (name : Text) : ClassDeclaration :=
      { name := name, base? := none, layout? := none, isData := false, fields := []
        secondName := none, matchArgs := none, omitsMatchArgs := false, isCallable := false
        positionalHook := none, keyedHook := none, asFields := none }
    let classes := ClassTable.declare
      (ClassTable.declare .empty { plain base with matchArgs := some (some []) })
      { plain dot with base? := some base, matchArgs := some none }
    let types : Variants := ⟨[(shape, [base]), (base, [base])]⟩
    let ctx : Context := ⟨classes, .empty, some (types.sumTypes classes)⟩
    let v : Value := .record dot []
    ctx.PositionalFault v shape (.noSlots dot) ∧ run ctx (.tagArray dot []) v = mismatch ∧
      run ctx (.tagObject shape []) v = mismatch := by
  intro base dot shape plain classes types ctx v
  have registered : ctx.Registered := by
    intro known isKnown
    exact ⟨types, [(shape, [base])], [.sumTypeRegistered shape [base]],
      (Option.some.inj isKnown).symm, rfl⟩
  have complete : ctx.Complete v := ⟨nofun, nofun⟩
  obtain ⟨positional, -, passed⟩ := deconstruction_fails_iff registered complete shape
  obtain ⟨-, -, alone⟩ := deconstruction_fails_iff registered complete dot
  refine ⟨(positional _).mp rfl, (alone []).1 ⟨rfl, rfl, rfl, rfl⟩, (passed []).2 ?_⟩
  exact ⟨rfl, rfl, nofun, fun _ => rfl, nofun, rfl⟩

end Matching

end PatternDispatch
