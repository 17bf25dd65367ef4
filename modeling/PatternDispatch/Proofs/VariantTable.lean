import PatternDispatch.Proofs.RegisteredSumTypes

/-!
The table of sum types over any sequence of registrations, refused ones included. A registration is
refused exactly for a variant without slots, and then changes nothing; else its variants come behind
what the name stood for, and a variant that has no entry yet comes to stand for itself. So what a
name once stood for stays the beginning of what it stands for, and whatever a name stands for has
slots, which the objects of the class are read by.
-/

namespace PatternDispatch

/-! ## Classes with slots -/

/-- The slots of a class: the attributes that stand for its positional components, or, where it does
not say what these are, the fields of a data class. -/
inductive Class.SlotNames (c : Class) : List Text → Prop where
  | attributes {names : List Text} : c.matchArgs? = some names → SlotNames c names
  | fields {names : List Text} : c.matchArgs? = none → c.dataFields? = some names →
      SlotNames c names

theorem Class.slotNames_iff {c : Class} {names : List Text} :
    c.SlotNames names ↔ c.matchArgs?.or c.dataFields? = some names := by
  constructor
  · rintro (given | ⟨omitted, fields⟩)
    · rw [given, Option.some_or]
    · rw [omitted, Option.none_or, fields]
  · intro found
    cases given : c.matchArgs? with
    | some attributes =>
      rw [given, Option.some_or] at found
      exact .attributes (given.trans found)
    | none =>
      rw [given, Option.none_or] at found
      exact .fields given found

/-- A class of the table that has slots. -/
def ClassTable.HasSlots (classes : ClassTable) (name : Text) : Prop :=
  ∃ c names, classes.find? name = some c ∧ c.SlotNames names

namespace Variants

variable {classes : ClassTable} {name variant : Text} {variants : List Text} {types : Variants}

theorem classSlotNames_iff {names : List Text} : classSlotNames? classes name = some names ↔
    ∃ c, classes.find? name = some c ∧ c.SlotNames names := by
  simp only [classSlotNames?, Option.bind_eq_some_iff, Class.slotNames_iff]

theorem hasSlots_iff : classes.HasSlots name ↔ (classSlotNames? classes name).isSome = true := by
  rw [Option.isSome_iff_exists]
  constructor
  · rintro ⟨c, names, found, slots⟩
    exact ⟨names, classSlotNames_iff.mpr ⟨c, found, slots⟩⟩
  · rintro ⟨names, known⟩
    obtain ⟨c, found, slots⟩ := classSlotNames_iff.mp known
    exact ⟨c, names, found, slots⟩

/-! ## One registration -/

/-- The first of some variants that has no slots. -/
def FirstWithoutSlots (classes : ClassTable) (variants : List Text) (variant : Text) : Prop :=
  ∃ before after, variants = before ++ variant :: after ∧
    (∀ other ∈ before, classes.HasSlots other) ∧ ¬classes.HasSlots variant

/-- What a registration that succeeds makes of a table. -/
structure Enters (name : Text) (variants : List Text) (types later : Variants) : Prop where
  named : later.find? name = some ((types.find? name).getD [] ++ variants)
  /-- A variant gets an entry of its own only if it had none. -/
  own : ∀ variant ∈ variants, variant ≠ name →
    later.find? variant = some ((types.find? variant).getD [variant])
  others : ∀ other ∉ variants, other ≠ name → later.find? other = types.find? other

theorem enters_entered (name : Text) (variants : List Text) (types : Variants) :
    Enters name variants types (types.entered name variants) where
  named := by rw [find?_entered, if_pos rfl]
  own variant member different := by rw [find?_entered, if_neg different, if_pos member]
  others other absent different := by rw [find?_entered, if_neg different, if_neg absent]

/-- A name that is one of its own variants stands for all of them and gets no entry besides. -/
example :
    let leaf := Text.ofString "Leaf"
    let node := Text.ofString "Node"
    let types := entered leaf [node, leaf] .empty
    types.find? leaf = some [node, leaf] ∧ types.find? node = some [node] :=
  ⟨rfl, rfl⟩

theorem register_of_hasSlots (name : Text) (types : Variants)
    (each : ∀ variant ∈ variants, classes.HasSlots variant) :
    register classes name variants types =
      ⟨types.entered name variants, [.sumTypeRegistered name variants], .ok ()⟩ := by
  have registering := registering classes name variants types
  generalize register classes name variants types = ran at registering
  cases registering with
  | refused member exposesNone =>
    have exposes := hasSlots_iff.mp (each _ member)
    rw [exposesNone] at exposes
    cases exposes
  | entered => rfl

theorem register_of_firstWithoutSlots (name : Text) (types : Variants)
    (first : FirstWithoutSlots classes variants variant) :
    register classes name variants types = ⟨types, [], .error (.noSlots variant)⟩ := by
  obtain ⟨before, after, rfl, earlier, without⟩ := first
  have found : (before ++ variant :: after).find?
      (fun variant => (classSlotNames? classes variant).isNone) = some variant := by
    refine List.find?_eq_some_iff_append.mpr ⟨?_, before, after, rfl, ?_⟩
    · rw [hasSlots_iff, Option.not_isSome_iff_eq_none] at without
      rw [without, Option.isNone_none]
    · intro other member
      rw [Option.not_isNone]
      exact hasSlots_iff.mp (earlier other member)
  unfold register
  rw [found]
  rfl

theorem hasSlots_or_firstWithoutSlots (classes : ClassTable) (variants : List Text) :
    (∀ variant ∈ variants, classes.HasSlots variant) ∨
      ∃ variant, FirstWithoutSlots classes variants variant := by
  induction variants with
  | nil => exact .inl nofun
  | cons variant variants ih =>
    by_cases first : classes.HasSlots variant
    · obtain others | ⟨later, before, after, rfl, earlier, without⟩ := ih
      · exact .inl (List.forall_mem_cons.mpr ⟨first, others⟩)
      · exact .inr ⟨later, variant :: before, after, rfl,
          List.forall_mem_cons.mpr ⟨first, earlier⟩, without⟩
    · exact .inr ⟨variant, [], variants, rfl, nofun, first⟩

theorem FirstWithoutSlots.mem (first : FirstWithoutSlots classes variants variant) :
    variant ∈ variants := by
  obtain ⟨before, after, rfl, -⟩ := first
  exact List.mem_append_right before List.mem_cons_self

theorem FirstWithoutSlots.without (first : FirstWithoutSlots classes variants variant) :
    ¬classes.HasSlots variant := by
  obtain ⟨before, after, -, -, without⟩ := first
  exact without

/-- A registration enters all its variants or fails for the first that has no slots. -/
theorem register_cases (classes : ClassTable) (name : Text) (variants : List Text)
    (types : Variants) :
    ((∀ variant ∈ variants, classes.HasSlots variant) ∧ register classes name variants types =
      ⟨types.entered name variants, [.sumTypeRegistered name variants], .ok ()⟩) ∨
    ∃ variant, FirstWithoutSlots classes variants variant ∧
      register classes name variants types = ⟨types, [], .error (.noSlots variant)⟩ := by
  obtain each | ⟨variant, first⟩ := hasSlots_or_firstWithoutSlots classes variants
  · exact .inl ⟨each, register_of_hasSlots name types each⟩
  · exact .inr ⟨variant, first, register_of_firstWithoutSlots name types first⟩

theorem register_fails_iff : (∃ failure,
      (register classes name variants types).outcome.result = .error failure) ↔
    ∃ variant ∈ variants, ¬classes.HasSlots variant := by
  obtain ⟨each, entered⟩ | ⟨variant, first, refused⟩ :=
    register_cases classes name variants types
  · rw [entered]
    refine ⟨nofun, ?_⟩
    rintro ⟨variant, member, without⟩
    exact absurd (each variant member) without
  · rw [refused]
    exact ⟨fun _ => ⟨variant, first.mem, first.without⟩, fun _ => ⟨_, rfl⟩⟩

/-- A registration that fails leaves the table as it is. -/
theorem register_of_error {failure : Failure}
    (failed : (register classes name variants types).outcome.result = .error failure) :
    (register classes name variants types).state = types ∧
      ∃ variant, FirstWithoutSlots classes variants variant ∧ failure = .noSlots variant := by
  obtain ⟨-, entered⟩ | ⟨variant, first, refused⟩ := register_cases classes name variants types
  · rw [entered] at failed
    cases failed
  · rw [refused] at failed ⊢
    cases failed
    exact ⟨rfl, variant, first, rfl⟩

theorem enters_of_ok (succeeded : (register classes name variants types).outcome.result = .ok ()) :
    Enters name variants types (register classes name variants types).state := by
  obtain ⟨-, entered⟩ | ⟨variant, -, refused⟩ := register_cases classes name variants types
  · rw [entered]
    exact enters_entered name variants types
  · rw [refused] at succeeded
    cases succeeded

/-- A name that has an entry keeps one, whether a registration succeeds or not. -/
theorem contains_register (classes : ClassTable) (name : Text) (variants : List Text)
    {other : Text} (known : types.contains other = true) :
    (register classes name variants types).state.contains other = true := by
  obtain ⟨-, entered⟩ | ⟨variant, -, refused⟩ := register_cases classes name variants types
  · rw [entered, Table.contains, find?_entered]
    split
    · rfl
    · split
      · rfl
      · exact known
  · rw [refused]
    exact known

/-! ## Any number of registrations -/

/-- The table after some registrations, each of which may be refused. -/
def after (classes : ClassTable) (calls : List (Text × List Text)) (types : Variants) : Variants :=
  calls.foldl (fun types call => (register classes call.1 call.2 types).state) types

theorem after_append (classes : ClassTable) (earlier later : List (Text × List Text))
    (types : Variants) :
    after classes (earlier ++ later) types = after classes later (after classes earlier types) :=
  List.foldl_append

/-- What one registration keeps, whether it succeeds or not, any number of them keep. -/
theorem after_keeps {Kept : Variants → Prop}
    (step : ∀ name variants types, Kept types → Kept (register classes name variants types).state)
    (calls : List (Text × List Text)) (kept : Kept types) : Kept (after classes calls types) := by
  induction calls generalizing types with
  | nil => exact kept
  | cons call calls ih => exact ih (step call.1 call.2 types kept)

theorem extends_after (classes : ClassTable) (calls : List (Text × List Text))
    (types : Variants) : types.Extends (after classes calls types) :=
  after_keeps (fun name variants next kept =>
    kept.trans (extends_register classes name variants next)) calls (.refl types)

/-- What a name stands for is the beginning of what it stands for later. -/
theorem find?_after (classes : ClassTable) (calls : List (Text × List Text)) {found : List Text}
    (known : types.find? name = some found) :
    ∃ current, (after classes calls types).find? name = some current ∧ found <+: current := by
  have contained : (after classes calls types).contains name = true :=
    @after_keeps classes types (fun types => types.contains name = true)
      (fun entered variants _ => contains_register classes entered variants) calls
      (Option.isSome_iff_exists.mpr ⟨found, known⟩)
  obtain ⟨current, ends⟩ := Option.isSome_iff_exists.mp contained
  have begins := extends_after classes calls types name
  rw [known, ends] at begins
  exact ⟨current, ends, begins⟩

theorem hasSlots_after {calls : List (Text × List Text)} {entry : List Text}
    (known : (after classes calls .empty).find? name = some entry) :
    ∀ variant ∈ entry, classes.HasSlots variant := by
  intro variant member
  have exposing : Exposing classes (after classes calls .empty) :=
    after_keeps (fun name variants _ exposing => exposing.register name variants) calls
      (exposing_empty classes)
  have exposes := exposing name variant
  rw [known] at exposes
  exact hasSlots_iff.mpr (exposes member)

/-! ## Slots of an object -/

section Slots

variable {v : Value} {names : List Text}

/-- The slots of an object are those of its class. -/
theorem slotNames_of_className {c : Class} (isObject : v.className? = some name)
    (found : classes.find? name = some c) (slots : c.SlotNames names) :
    slotNames classes v = .ok names := by
  have isClass : v.class? classes = some c := by
    rw [Value.class?, isObject, Option.bind_some, found]
  rw [slotNames, @Context.slotNames_of_class ⟨classes, .empty, none⟩ v c isClass,
    Class.slotNames_iff.mp slots]

theorem arity_of_slotNames (known : slotNames classes v = .ok names) :
    arity classes v = .ok names.length := by
  rw [arity, known]
  rfl

theorem slot_of_slotNames (known : slotNames classes v = .ok names) {index : Nat}
    (inside : index < names.length) :
    slot classes v index = v.getAttribute classes names[index] := by
  rw [slot, known]
  dsimp only
  rw [nameAt?_natCast, List.getElem?_eq_getElem inside]

end Slots

/-- The table of sum types after any registrations, of which each may have been refused. The next
one fails exactly if a variant has no slots, for the first such variant and with the table as it
was, and else it enters its variants. What a name stood for after some of the registrations is the
beginning of what it stands for after all. Every class that a name stands for has slots, and the
objects of such a class have as many slots as the class has, each read as the attribute of its
name. -/
theorem variant_table_invariant (classes : ClassTable) (calls : List (Text × List Text)) :
    let types := after classes calls .empty
    (∀ name variants,
      let ran := register classes name variants types
      ((∃ failure, ran.outcome.result = .error failure) ↔
        ∃ variant ∈ variants, ¬classes.HasSlots variant) ∧
      (∀ failure, ran.outcome.result = .error failure → ran.state = types ∧
        ∃ variant, FirstWithoutSlots classes variants variant ∧ failure = .noSlots variant) ∧
      (ran.outcome.result = .ok () → Enters name variants types ran.state)) ∧
    (∀ earlier later, calls = earlier ++ later → ∀ name found,
      (after classes earlier .empty).find? name = some found →
        ∃ current, types.find? name = some current ∧ found <+: current) ∧
    (∀ name entry, types.find? name = some entry →
      (∀ variant ∈ entry, classes.HasSlots variant) ∧
      ∀ (v : Value), ∀ variant ∈ entry, v.className? = some variant →
        ∃ c names, classes.find? variant = some c ∧ c.SlotNames names ∧
          arity classes v = .ok names.length ∧
          ∀ (index : Nat) (inside : index < names.length),
            slot classes v index = v.getAttribute classes names[index]) := by
  intro types
  refine ⟨?_, ?_, ?_⟩
  · intro name variants
    exact ⟨register_fails_iff, fun _ => register_of_error, enters_of_ok⟩
  · rintro earlier later rfl name found known
    have ends : types = after classes later (after classes earlier .empty) :=
      after_append classes earlier later .empty
    rw [ends]
    exact find?_after classes later known
  · intro name entry known
    have each : ∀ variant ∈ entry, classes.HasSlots variant := hasSlots_after known
    refine ⟨each, ?_⟩
    intro v variant member isObject
    obtain ⟨c, names, found, slots⟩ := each variant member
    have named := slotNames_of_className isObject found slots
    exact ⟨c, names, found, slots, arity_of_slotNames named,
      fun index inside => slot_of_slotNames named inside⟩

end Variants

end PatternDispatch
