import PatternDispatch.Proofs.VisitedValues
import PatternDispatch.Variants

/-!
Values without arrays. What a pattern finds in such a value has none either: the elements and
entries of the value are parts of it, and the components that a class or an extractor stands for are
taken from its attributes, unless a function of the user makes them.
-/

namespace PatternDispatch

namespace Value

/-- The values that a value is made of. -/
def parts : Value → List Value
  | list items | tuple items | foreign _ items => items
  | map entries | mapping _ entries => entries.map (·.1) ++ entries.map (·.2)
  | pass value => [value]
  | record _ attributes | namedTuple _ attributes => attributes.map (·.2)
  | derived _ base attributes => base :: attributes.map (·.2)
  | _ => []

/-- A value that is no array and is made of none. -/
inductive ArrayFree : Value → Prop where
  | intro {v : Value} : v.isArray = false → (∀ w ∈ v.parts, ArrayFree w) → ArrayFree v

section ArrayFree

variable {v w : Value}

theorem ArrayFree.part (free : v.ArrayFree) (member : w ∈ v.parts) : w.ArrayFree := by
  cases free with
  | intro _ parts => exact parts w member

theorem ArrayFree.not_array (free : v.ArrayFree) (cells : NumericArray) : v ≠ .array cells := by
  rintro rfl
  cases free with
  | intro none => cases none

/-- A value without parts is free of arrays if it is none itself. -/
theorem ArrayFree.leaf (none : v.isArray = false) (single : v.parts = []) : v.ArrayFree := by
  refine .intro none fun w member => ?_
  rw [single] at member
  cases member

theorem ArrayFree.list {items : List Value} (free : ∀ w ∈ items, w.ArrayFree) :
    (Value.list items).ArrayFree := .intro rfl free

theorem ArrayFree.map {entries : List (Value × Value)}
    (free : ∀ entry ∈ entries, entry.1.ArrayFree ∧ entry.2.ArrayFree) :
    (Value.map entries).ArrayFree := by
  refine .intro rfl fun w member => ?_
  rcases List.mem_append.mp member with key | value
  · obtain ⟨entry, inside, rfl⟩ := List.mem_map.mp key
    exact (free entry inside).1
  · obtain ⟨entry, inside, rfl⟩ := List.mem_map.mp value
    exact (free entry inside).2

theorem ArrayFree.underlying (free : v.ArrayFree) : v.underlying.ArrayFree := by
  cases v with
  | derived name base attributes => exact free.part List.mem_cons_self
  | _ => exact free

theorem ArrayFree.element {elements : List Value} (free : v.ArrayFree)
    (found : v.elements? = some elements) (member : w ∈ elements) : w.ArrayFree := by
  have under := free.underlying
  unfold elements? at found
  cases base : v.underlying with
  | list items | tuple items =>
    rw [base] at found under
    cases found
    exact under.part member
  | namedTuple name components =>
    rw [base] at found under
    cases found
    exact under.part member
  | array cells => exact absurd base (under.not_array cells)
  | _ =>
    rw [base] at found
    cases found

theorem ArrayFree.entry {entries : List (Value × Value)} {entry : Value × Value}
    (free : v.ArrayFree) (found : v.entries? = some entries) (member : entry ∈ entries) :
    entry.2.ArrayFree := by
  have under := free.underlying
  unfold entries? at found
  cases base : v.underlying with
  | map items | mapping name items =>
    rw [base] at found under
    cases found
    exact under.part (List.mem_append_right _ (List.mem_map.mpr ⟨entry, member, rfl⟩))
  | _ =>
    rw [base] at found
    cases found

theorem ArrayFree.field {field : Text × Value} (free : v.ArrayFree)
    (member : field ∈ v.attributes) : field.2.ArrayFree := by
  cases v with
  | record name fields | namedTuple name fields =>
    exact free.part (List.mem_map.mpr ⟨field, member, rfl⟩)
  | derived name base fields =>
    exact free.part (List.mem_cons_of_mem base (List.mem_map.mpr ⟨field, member, rfl⟩))
  | pass value =>
    obtain rfl := List.mem_singleton.mp member
    exact free.part List.mem_cons_self
  | _ => cases member

/-- Entries without arrays, in their keys and in their values. -/
def EntriesFree (entries : List (Value × Value)) : Prop :=
  ∀ entry ∈ entries, entry.1.ArrayFree ∧ entry.2.ArrayFree

theorem entriesFree_insertEntry {entries : List (Value × Value)} {key value : Value}
    (free : EntriesFree entries) (keyFree : key.ArrayFree) (valueFree : value.ArrayFree) :
    EntriesFree (insertEntry entries key value) := by
  induction entries with
  | nil => exact List.forall_mem_singleton.mpr ⟨keyFree, valueFree⟩
  | cons entry entries ih =>
    obtain ⟨first, others⟩ := List.forall_mem_cons.mp free
    unfold insertEntry
    split
    · exact List.forall_mem_cons.mpr ⟨⟨first.1, valueFree⟩, others⟩
    · exact List.forall_mem_cons.mpr ⟨first, ih others⟩

theorem ArrayFree.mapOf {entries : List (Value × Value)} (free : EntriesFree entries) :
    (Value.mapOf entries).ArrayFree := by
  have inserted (found : List (Value × Value)) (before : EntriesFree found) :
      EntriesFree (entries.foldl (fun found entry => insertEntry found entry.1 entry.2) found) := by
    induction entries generalizing found with
    | nil => exact before
    | cons entry entries ih =>
      obtain ⟨first, others⟩ := List.forall_mem_cons.mp free
      exact ih others _ (entriesFree_insertEntry before first.1 first.2)
  exact .map (inserted [] fun _ member => nomatch member)

end ArrayFree

/-! ## Attributes -/

section Attributes

variable {classes : ClassTable} {v w : Value} {name : Text}

theorem ArrayFree.attributeMap (free : v.ArrayFree) (found : v.attributeMap? = some w) :
    w.ArrayFree := by
  have named {fields : List (Text × Value)} (free : ∀ field ∈ fields, field.2.ArrayFree) :
      EntriesFree (fields.map fun field => (str field.1, field.2)) := by
    intro entry member
    obtain ⟨field, inside, rfl⟩ := List.mem_map.mp member
    exact ⟨.leaf rfl rfl, free field inside⟩
  unfold attributeMap? at found
  split at found
  · next name fields =>
    cases found
    exact .mapOf (named fun field member => free.field member)
  · next name base fields =>
    cases found
    exact .mapOf (named fun field member => free.field member)
  · next value =>
    cases found
    refine .map (List.forall_mem_singleton.mpr ⟨.leaf rfl rfl, ?_⟩)
    exact free.part List.mem_cons_self
  · cases found

theorem ArrayFree.builtInAttribute (free : v.ArrayFree)
    (found : v.builtInAttribute? classes name = some w) : w.ArrayFree := by
  unfold builtInAttribute? at found
  dsimp only at found
  split at found
  · exact free.attributeMap found
  · split at found
    · cases found
      exact .leaf rfl rfl
    · split at found
      · cases found
        exact .leaf rfl rfl
      · split at found
        · next part here =>
          cases found
          have member := List.mem_of_find?_eq_some here
          unfold numberParts at member
          split at member
          · simp only [List.mem_cons, List.not_mem_nil, or_false] at member
            rcases member with rfl | rfl | rfl | rfl <;> exact .leaf rfl rfl
          · simp only [List.mem_cons, List.not_mem_nil, or_false] at member
            rcases member with rfl | rfl <;> exact .leaf rfl rfl
          · cases member
        · split at found
          · cases found
            exact .leaf rfl rfl
          · cases found

theorem ArrayFree.lookup {fields : List (Text × Value)} (free : ∀ field ∈ fields, field.2.ArrayFree)
    (found : fields.lookup name = some w) : w.ArrayFree :=
  free _ (Table.mem_of_find? (t := ⟨fields⟩) found)

end Attributes

/-! ## Calls without arguments -/

section Calls

variable {classes : ClassTable} {v w : Value}

/-- A new object that is given nothing holds nothing. -/
theorem ArrayFree.make {c : Class} (made : c.make classes [] = .ok w) : w.ArrayFree := by
  unfold Class.make at made
  simp only [List.zip_nil_right] at made
  split at made
  · cases made
  · split at made
    · cases made
      exact .leaf rfl rfl
    · cases made
      exact .leaf rfl rfl
    · next base _ =>
      cases made
      refine .intro rfl (List.forall_mem_singleton.mpr ?_)
      cases base <;> exact .leaf rfl rfl
    · cases made
      exact .leaf rfl rfl

/-- A call without arguments answers no arrays. -/
theorem ArrayFree.call (called : v.call classes [] = .ok w) : w.ArrayFree := by
  unfold Value.call at called
  split at called
  · next name =>
    unfold callFunction at called
    dsimp only at called
    split at called
    · cases called
    · split at called
      · cases called
      · cases called
        exact .leaf rfl rfl
  · split at called
    · exact .make called
    · cases called
  · split at called
    · cases called
      exact .leaf rfl rfl
    · cases called

end Calls

end Value

/-! ## Classes -/

/-- A class that shares no arrays with its objects. -/
def Class.SharesNone (c : Class) : Prop := ∀ entry ∈ c.shared, entry.2.ArrayFree

section Declarations

variable {classes : ClassTable} {d : ClassDeclaration}

theorem Setting.entry_arrayFree {α : Type} {own : Setting α} {name : String} {value : α → Value}
    (free : ∀ a, (value a).ArrayFree) : ∀ entry ∈ own.entry name value, entry.2.ArrayFree := by
  intro entry member
  obtain ⟨set, -, rfl⟩ := List.mem_map.mp member
  cases set with
  | none => exact .leaf rfl rfl
  | some a => exact free a

/-- What a declaration puts on a class are texts, names and methods. -/
theorem ClassDeclaration.shared_arrayFree (dataFields : List Text) :
    ∀ entry ∈ d.shared dataFields, entry.2.ArrayFree := by
  have text (t : Text) : (Value.str t).ArrayFree := .leaf rfl rfl
  have method : Value.method.ArrayFree := .leaf rfl rfl
  have names (items : List Text) : (Value.tuple (items.map .str)).ArrayFree := by
    refine .intro rfl fun w member => ?_
    obtain ⟨t, -, rfl⟩ := List.mem_map.mp member
    exact text t
  unfold ClassDeclaration.shared
  dsimp only
  simp only [List.forall_mem_append]
  refine ⟨⟨⟨⟨⟨Setting.entry_arrayFree text, Setting.entry_arrayFree names⟩,
    Setting.entry_arrayFree fun _ => method⟩, Setting.entry_arrayFree fun _ => method⟩,
    Setting.entry_arrayFree fun _ => method⟩, ?_⟩
  split
  · simp only [List.forall_mem_cons, List.not_mem_nil, false_implies, implies_true, and_true]
    exact ⟨names d.fields, .leaf rfl rfl, method, method, method⟩
  · exact fun _ member => nomatch member

/-- No declared class shares an array: a declaration leads from such tables to such tables. -/
theorem ClassTable.declare_sharesNone (none : ∀ entry ∈ classes.entries, entry.2.SharesNone) :
    ∀ entry ∈ (classes.declare d).entries, entry.2.SharesNone := by
  have made : (d.resolve (d.base?.bind classes.find?)).SharesNone := by
    refine List.forall_mem_append.mpr ⟨d.shared_arrayFree _, ?_⟩
    cases found : d.base?.bind classes.find? with
    | none => exact fun _ member => nomatch member
    | some base =>
      obtain ⟨name, -, here⟩ := Option.bind_eq_some_iff.mp found
      exact none _ (Table.mem_of_find? here)
  refine Table.forall_insert ?_ d.name made
  intro entry member
  obtain ⟨other, inside, rfl⟩ := List.mem_map.mp member
  exact none other inside

end Declarations

/-! ## Attributes -/

namespace Class

/-- The functions of a class that make components of an object. -/
def hooks (c : Class) : List Hook :=
  c.positionalHook?.toList ++ c.keyedHook?.toList ++
    match c.asFields? with
    | some (_, .hook run) => [run]
    | _ => []

/-- A class that shares no arrays with its objects and whose functions make none. -/
structure ArrayFree (classes : ClassTable) (c : Class) : Prop where
  shared : c.SharesNone
  hooks : ∀ hook ∈ c.hooks, ∀ v w : Value, v.ArrayFree → v.applyHook classes hook = .ok w →
    w.ArrayFree

end Class

namespace ClassTable

def ArrayFree (classes : ClassTable) : Prop :=
  ∀ name c, classes.find? name = some c → c.ArrayFree classes

section Answers

variable {classes : ClassTable} {v w : Value} {name : Text}

theorem ArrayFree.classOf (free : classes.ArrayFree) {c : Class}
    (found : v.class? classes = some c) : c.ArrayFree classes := by
  obtain ⟨name, -, here⟩ := Option.bind_eq_some_iff.mp found
  exact free name c here

variable (tableFree : classes.ArrayFree) (free : v.ArrayFree)

include tableFree free

theorem ArrayFree.attribute (read : v.getAttribute classes name = .ok w) : w.ArrayFree := by
  unfold Value.getAttribute at read
  split at read
  · next found =>
    cases read
    rcases Option.or_eq_some_iff.mp found with own | ⟨-, other⟩
    · exact .lookup (fun field member => free.field member) own
    · rcases Option.or_eq_some_iff.mp other with inherited | ⟨-, builtIn⟩
      · obtain ⟨c, isClass, shared⟩ := Option.bind_eq_some_iff.mp inherited
        exact .lookup (tableFree.classOf isClass).shared shared
      · exact free.builtInAttribute builtIn
  · cases read

theorem ArrayFree.attributes {names : List Text} {values : List Value}
    (read : v.getAttributes classes names = .ok values) : ∀ w ∈ values, w.ArrayFree := by
  unfold Value.getAttributes at read
  induction names generalizing values with
  | nil =>
    cases read
    exact fun _ member => nomatch member
  | cons name names ih =>
    unfold AttributeReader.list at read
    split at read
    · cases read
    · next value own =>
      split at read
      · cases read
      · next others later =>
        cases read
        exact List.forall_mem_cons.mpr ⟨tableFree.attribute free own, ih later⟩

theorem ArrayFree.fieldMap {names : List Text} (read : v.fieldMap classes names = .ok w) :
    w.ArrayFree := by
  obtain ⟨values, listed, rfl⟩ := exists_of_map_ok read
  refine .mapOf fun entry member => ?_
  obtain ⟨key, value⟩ := List.of_mem_zip member
  obtain ⟨name, -, same⟩ := List.mem_map.mp key
  rw [← same]
  exact ⟨.leaf rfl rfl, tableFree.attributes free listed _ value⟩

/-- The slots that a table of variants knows of are attributes. -/
theorem ArrayFree.slot {index : Int} (read : Variants.slot classes v index = .ok w) :
    w.ArrayFree := by
  unfold Variants.slot at read
  split at read
  · cases read
  · split at read
    · cases read
    · exact tableFree.attribute free read

end Answers

end ClassTable

/-! ## Contexts -/

namespace Context

/-- A context whose classes, extractors and sum types make no arrays of values without any. -/
structure ArrayFree (ctx : Context) : Prop where
  classes : ctx.classes.ArrayFree
  extractors : ∀ name extractor, ctx.extractors.find? name = some extractor →
    ∀ v w : Value, v.ArrayFree → extractor.run v = .ok w → w.ArrayFree
  sumTypes : ∀ types, ctx.sumTypes? = some types →
    ∀ (v : Value) (index : Int) (w : Value), v.ArrayFree → types.slot v index = .ok w → w.ArrayFree

/-- A table of variants makes no arrays. -/
theorem arrayFree_of_table {ctx : Context} {types? : Option Variants} (uses : ctx.UsesTable types?)
    (classes : ctx.classes.ArrayFree)
    (extractors : ∀ name extractor, ctx.extractors.find? name = some extractor →
      ∀ v w : Value, v.ArrayFree → extractor.run v = .ok w → w.ArrayFree) : ctx.ArrayFree where
  classes := classes
  extractors := extractors
  sumTypes types known v index w free read := by
    obtain ⟨table, -, rfl⟩ := uses.exists_table known
    exact classes.slot free read

section Answers

variable {ctx : Context} {v w : Value} {name : Text}

variable (ctxFree : ctx.ArrayFree) (free : v.ArrayFree)

include ctxFree free

theorem ArrayFree.applyHook {c : Class} (isClass : v.class? ctx.classes = some c) {hook : Hook}
    (member : hook ∈ c.hooks) (answered : v.applyHook ctx.classes hook = .ok w) : w.ArrayFree :=
  (ctxFree.classes.classOf isClass).hooks hook member v w free answered

theorem ArrayFree.hookAnswer {c : Class} (isClass : v.class? ctx.classes = some c) {hook : Hook}
    (member : hook ∈ c.hooks) (answered : ctx.hookAnswer hook v = .ok (some w)) : w.ArrayFree := by
  unfold Context.hookAnswer at answered
  split at answered
  · cases answered
  · cases answered
  · next components applied =>
    cases answered
    exact ctxFree.applyHook free isClass member applied

theorem ArrayFree.slotsFrom {types : SumTypes} (known : ctx.sumTypes? = some types)
    {position count : Nat} {values : List Value}
    (read : types.slotsFrom v position count = .ok values) : ∀ w ∈ values, w.ArrayFree := by
  induction count generalizing position values with
  | zero =>
    cases read
    exact fun _ member => nomatch member
  | succ count ih =>
    unfold SumTypes.slotsFrom at read
    split at read
    · cases read
    · next value own =>
      split at read
      · cases read
      · next others later =>
        cases read
        exact List.forall_mem_cons.mpr ⟨ctxFree.sumTypes types known v _ value free own, ih later⟩

theorem ArrayFree.slots {types : SumTypes} (known : ctx.sumTypes? = some types)
    (read : types.slots v = .ok w) : w.ArrayFree := by
  unfold SumTypes.slots at read
  split at read
  · cases read
  · obtain ⟨values, listed, rfl⟩ := exists_of_map_ok read
    exact .list (ctxFree.slotsFrom free known listed)

theorem ArrayFree.positional (answered : (ctx.positional v name).result = .ok (some w)) :
    w.ArrayFree := by
  unfold Context.positional at answered
  split at answered
  · next hook found =>
    obtain ⟨c, isClass, here⟩ := Option.bind_eq_some_iff.mp found
    have member : hook ∈ c.hooks := by simp [Class.hooks, here]
    rw [Traced.result_bind] at answered
    exact ctxFree.hookAnswer free isClass member answered
  · split at answered
    · next types known _ =>
      obtain ⟨found, read, same⟩ := exists_of_map_ok answered
      cases same
      exact ctxFree.slots free known read
    · split at answered
      · obtain ⟨values, listed, same⟩ := exists_of_map_ok answered
        cases same
        exact .list (ctxFree.classes.attributes free listed)
      · have own := Except.ok.inj answered
        split at own
        · cases own
          exact free
        · cases own

/-- What the fields method of a value answers, if it has one and does not fail. -/
theorem ArrayFree.asFields (answered : (ctx.asFields v).result = .ok (some w)) : w.ArrayFree := by
  unfold Context.asFields at answered
  dsimp only at answered
  split at answered
  · split at answered <;> cases answered
  · cases answered
  · rw [Traced.result_bind] at answered
    obtain ⟨found, called, same⟩ := exists_of_map_ok answered
    cases same
    exact .call called
  · split at answered
    · cases answered
    · next owner found here =>
      obtain ⟨c, isClass, method⟩ := Option.bind_eq_some_iff.mp here
      rw [Traced.result_bind] at answered
      split at answered
      · cases answered
      · split at answered
        · obtain ⟨fields, read, same⟩ := exists_of_map_ok answered
          cases same
          exact ctxFree.classes.fieldMap free read
        · next run =>
          have member : run ∈ c.hooks := by simp [Class.hooks, method]
          obtain ⟨fields, applied, same⟩ := exists_of_map_ok answered
          cases same
          exact ctxFree.applyHook free isClass member applied

theorem ArrayFree.keyed (answered : (ctx.keyed v).result = .ok (some w)) : w.ArrayFree := by
  unfold Context.keyed at answered
  split at answered
  · next hook found =>
    obtain ⟨c, isClass, here⟩ := Option.bind_eq_some_iff.mp found
    have member : hook ∈ c.hooks := by simp [Class.hooks, here]
    rw [Traced.result_bind] at answered
    exact ctxFree.hookAnswer free isClass member answered
  · split at answered
    · obtain ⟨fields, read, same⟩ := exists_of_map_ok answered
      cases same
      exact ctxFree.classes.fieldMap free read
    · rw [Traced.result_bind] at answered
      split at answered
      · cases answered
      · next found asked =>
        split at answered
        · cases answered
        · cases answered
          exact ctxFree.asFields free asked
        · have own := Except.ok.inj answered
          split at own
          · cases own
            exact free
          · cases own

theorem ArrayFree.extracted (answered : (ctx.extractors.call name v).result = .ok (.pass w)) :
    w.ArrayFree := by
  unfold Extractors.call at answered
  split at answered
  · cases answered
  · next extractor found =>
    rw [Traced.result_bind] at answered
    exact (ctxFree.extractors name extractor found v _ free answered).part List.mem_cons_self

end Answers

/-- In such a context a run that begins without arrays comes to none. -/
theorem ArrayFree.keeps {ctx : Context} (free : ctx.ArrayFree) :
    ctx.Keeps Value.ArrayFree True where
  element value found _ member := value.element found member
  entry value found _ member := value.entry found member
  positional _ _ _ _ value := free.positional value
  keyed _ _ _ value := free.keyed value
  extracted _ _ _ _ value := free.extracted value

end Context

end PatternDispatch
