import Mathlib.Data.List.Dedup
import PatternDispatch.Proofs.MatchSteps
import PatternDispatch.Proofs.WellFormedTree

/-!
What the items of a mapping mean. The names that all items declare decide which keys a value must
have and which entries are left to a rest, wherever it stands; with a rest the entries are shared
out between the declared names and what is left.
-/

namespace PatternDispatch

/-! ## Entries and keys -/

namespace Value

/-- The entries of a map, also of an object made over one, or of another mapping. -/
inductive HasEntries (v : Value) : List (Value × Value) → Prop where
  | map {entries : List (Value × Value)} : v.underlying = .map entries → HasEntries v entries
  | mapping {name : Text} {entries : List (Value × Value)} :
      v.underlying = .mapping name entries → HasEntries v entries

theorem hasEntries_iff {v : Value} {entries : List (Value × Value)} :
    v.HasEntries entries ↔ v.entries? = some entries := by
  unfold entries?
  constructor
  · intro has
    cases has with
    | map base | mapping base => rw [base]
  · intro found
    cases base : v.underlying with
    | map others => rw [base] at found; cases found; exact .map base
    | mapping name others => rw [base] at found; cases found; exact .mapping base
    | _ => rw [base] at found; cases found

/-- The value of the first entry whose key is a name. -/
inductive Under (name : Text) : List (Value × Value) → Value → Prop where
  | here {key value : Value} {entries : List (Value × Value)} : key.text? = some name →
      Under name ((key, value) :: entries) value
  | there {entry : Value × Value} {value : Value} {entries : List (Value × Value)} :
      entry.1.text? ≠ some name → Under name entries value → Under name (entry :: entries) value

/-- Entries of which no two have the same key. -/
def DistinctKeys (entries : List (Value × Value)) : Prop :=
  entries.Pairwise fun a b => sameKey a.1 b.1 = false

section Entries

variable {entries : List (Value × Value)} {name : Text} {value : Value}

theorem lookupText_cons (entry : Value × Value) (entries : List (Value × Value)) (name : Text) :
    lookupText (entry :: entries) name =
      if entry.1.text? = some name then some entry.2 else lookupText entries name := by
  have isKey : isKey name entry.1 = decide (entry.1.text? = some name) := beq_eq_decide ..
  rw [lookupText, List.find?_cons, isKey]
  by_cases named : entry.1.text? = some name
  · rw [if_pos named, decide_eq_true named, Option.map_some]
  · rw [if_neg named, decide_eq_false named, lookupText]

theorem under_iff : Under name entries value ↔ lookupText entries name = some value := by
  constructor
  · intro under
    induction under with
    | here named => rw [lookupText_cons, if_pos named]
    | there other _ ih => rw [lookupText_cons, if_neg other, ih]
  · intro found
    induction entries with
    | nil => cases found
    | cons entry entries ih =>
      rw [lookupText_cons] at found
      split at found
      · next named =>
        cases found
        exact .here named
      · next other => exact .there other (ih found)

theorem Under.exists_mem (under : Under name entries value) :
    ∃ entry ∈ entries, entry.1.text? = some name ∧ entry.2 = value := by
  induction under with
  | here named => exact ⟨_, List.mem_cons_self, named, rfl⟩
  | there _ _ ih =>
    obtain ⟨entry, member, found⟩ := ih
    exact ⟨entry, List.mem_cons_of_mem _ member, found⟩

theorem exists_under {entry : Value × Value} (member : entry ∈ entries)
    (named : entry.1.text? = some name) : ∃ value, Under name entries value := by
  induction entries with
  | nil => cases member
  | cons first entries ih =>
    by_cases here : first.1.text? = some name
    · exact ⟨first.2, .here here⟩
    · rcases List.mem_cons.mp member with rfl | later
      · exact absurd named here
      · obtain ⟨value, under⟩ := ih later
        exact ⟨value, .there here under⟩

/-- Keys that are the same text are one key. -/
theorem sameKey_of_text? {a b : Value} (one : a.text? = some name) (two : b.text? = some name) :
    sameKey a b = true := by
  have text {v : Value} (found : v.text? = some name) : v.underlying = .str name := by
    unfold text? at found
    cases base : v.underlying with
    | str text => rw [base] at found; cases found; rfl
    | _ => rw [base] at found; cases found
  have plain : sameKey (.str name) b = true := by
    rw [sameKey, text two]
    · exact beq_self_eq_true name
    all_goals nofun
  have base := text one
  cases a with
  | str other => cases base; exact plain
  | derived className inner attributes =>
    obtain rfl : inner = .str name := base
    rw [sameKey]
    exact plain
  | _ => cases base

/-- With distinct keys an entry is the one that is found under its name. -/
theorem DistinctKeys.under (distinct : DistinctKeys entries) {entry : Value × Value}
    (member : entry ∈ entries) (named : entry.1.text? = some name) :
    Under name entries entry.2 := by
  induction entries with
  | nil => cases member
  | cons first entries ih =>
    obtain ⟨apart, others⟩ := List.pairwise_cons.mp distinct
    rcases List.mem_cons.mp member with rfl | later
    · exact .here named
    · refine .there (fun same => ?_) (ih others later)
      cases (sameKey_of_text? same named).symm.trans (apart entry later)

theorem mem_insertEntry {key : Value} {entry : Value × Value}
    (member : entry ∈ insertEntry entries key value) :
    entry.1 = key ∨ ∃ old ∈ entries, old.1 = entry.1 := by
  induction entries with
  | nil =>
    obtain rfl := List.mem_singleton.mp member
    exact .inl rfl
  | cons first entries ih =>
    unfold insertEntry at member
    split at member
    · rcases List.mem_cons.mp member with rfl | later
      · exact .inr ⟨first, List.mem_cons_self, rfl⟩
      · exact .inr ⟨entry, List.mem_cons_of_mem first later, rfl⟩
    · rcases List.mem_cons.mp member with rfl | later
      · exact .inr ⟨first, List.mem_cons_self, rfl⟩
      · rcases ih later with same | ⟨old, inside, same⟩
        · exact .inl same
        · exact .inr ⟨old, List.mem_cons_of_mem first inside, same⟩

theorem DistinctKeys.insertEntry (distinct : DistinctKeys entries) (key value : Value) :
    DistinctKeys (insertEntry entries key value) := by
  induction entries with
  | nil => exact List.pairwise_singleton _ _
  | cons first entries ih =>
    obtain ⟨apart, others⟩ := List.pairwise_cons.mp distinct
    unfold Value.insertEntry
    split
    · exact List.pairwise_cons.mpr ⟨apart, others⟩
    · next other =>
      refine List.pairwise_cons.mpr ⟨fun entry member => ?_, ih others⟩
      rcases mem_insertEntry member with same | ⟨old, inside, same⟩
      · rw [same]
        exact Bool.eq_false_iff.mpr other
      · rw [← same]
        exact apart old inside

/-- The keys of a map that is made entry by entry are distinct. -/
theorem distinctKeys_mapOf (found : List (Value × Value)) :
    ∃ entries, mapOf found = .map entries ∧ DistinctKeys entries := by
  refine ⟨_, rfl, ?_⟩
  suffices kept : ∀ entries, DistinctKeys entries → DistinctKeys
      (found.foldl (fun made entry => Value.insertEntry made entry.1 entry.2) entries) from
    kept [] .nil
  induction found with
  | nil => exact fun _ distinct => distinct
  | cons entry found ih => exact fun entries distinct => ih _ (distinct.insertEntry entry.1 entry.2)

end Entries

end Value

namespace Matching

/-! ## The meaning of items -/

/-- An item asks for a name, with a pattern for the value or without one. -/
def Declares (items : List Pattern) (name : Text) : Prop :=
  .key name ∈ items ∨ ∃ inner, .keyValue name inner ∈ items

def DeclaredKey (items : List Pattern) (key : Value) : Prop :=
  ∃ name, Declares items name ∧ key.text? = some name

/-- The entries whose keys no item declares, in their order. -/
inductive Leaves (items : List Pattern) : List (Value × Value) → List (Value × Value) → Prop where
  | nil : Leaves items [] []
  | declared {entry : Value × Value} {entries left : List (Value × Value)} :
      DeclaredKey items entry.1 → Leaves items entries left → Leaves items (entry :: entries) left
  | other {entry : Value × Value} {entries left : List (Value × Value)} :
      ¬ DeclaredKey items entry.1 → Leaves items entries left →
      Leaves items (entry :: entries) (entry :: left)

/-- What the items of a mapping capture, one after the other. Which entries are left is decided by
all items of the mapping. -/
inductive FieldsMatch (ctx : Context) (items : List Pattern) (entries : List (Value × Value)) :
    List Pattern → List Value → Prop where
  | nil : FieldsMatch ctx items entries [] []
  | key {name : Text} {value : Value} {more : List Pattern} {captures : List Value} :
      Value.Under name entries value → FieldsMatch ctx items entries more captures →
      FieldsMatch ctx items entries (.key name :: more) (value :: captures)
  | keyValue {name : Text} {inner : Pattern} {value : Value} {more : List Pattern}
      {own others : List Value} : Value.Under name entries value → Matches ctx inner value own →
      FieldsMatch ctx items entries more others →
      FieldsMatch ctx items entries (.keyValue name inner :: more) (own ++ others)
  | named {name : Text} {left : List (Value × Value)} {more : List Pattern}
      {captures : List Value} : Leaves items entries left →
      FieldsMatch ctx items entries more captures →
      FieldsMatch ctx items entries (.rest (.identifier name) :: more) (.map left :: captures)
  | unnamed {more : List Pattern} {captures : List Value} :
      FieldsMatch ctx items entries more captures →
      FieldsMatch ctx items entries (.rest .wildcard :: more) captures

/-- A mapping that items match: it has every declared name, without a rest no other key, and the
items match what they name. -/
inductive MappingMatch (ctx : Context) (items : List Pattern) (v : Value) (captures : List Value) :
    Prop where
  | intro {entries : List (Value × Value)} : v.HasEntries entries →
      (∀ name, Declares items name → ∃ entry ∈ entries, entry.1.text? = some name) →
      ((∀ item ∈ items, item.isRest = false) → ∀ entry ∈ entries, DeclaredKey items entry.1) →
      FieldsMatch ctx items entries items captures → MappingMatch ctx items v captures

section Names

variable {items : List Pattern} {entries : List (Value × Value)}

/-- The names that are looked up are the declared ones. -/
theorem mem_declaredNames (each : ∀ item ∈ items, Pattern.Readable (.item .fields) item)
    {name : Text} : name ∈ declaredNames items ↔ Declares items name := by
  rw [declaredNames, List.mem_filterMap]
  constructor
  · rintro ⟨item, member, named⟩
    cases each item member with
    | key => cases named; exact .inl member
    | keyValue => cases named; exact .inr ⟨_, member⟩
    | rest => cases named
  · rintro (member | ⟨inner, member⟩)
    · exact ⟨_, member, rfl⟩
    · exact ⟨_, member, rfl⟩

theorem isDeclared_iff {names : List Text} {key : Value} :
    isDeclared names key = true ↔ ∃ name ∈ names, key.text? = some name := by
  unfold isDeclared
  cases key.text? with
  | none => simp
  | some text => simp

theorem isDeclared_declaredNames (each : ∀ item ∈ items, Pattern.Readable (.item .fields) item)
    {key : Value} : isDeclared (declaredNames items) key = true ↔ DeclaredKey items key := by
  rw [isDeclared_iff]
  simp only [mem_declaredNames each, DeclaredKey]

/-- The entries that are left are those that the declared names do not take. -/
theorem leaves_iff (each : ∀ item ∈ items, Pattern.Readable (.item .fields) item)
    {left : List (Value × Value)} :
    Leaves items entries left ↔
      left = entries.filter fun entry => !isDeclared (declaredNames items) entry.1 := by
  have declared {entry : Value × Value} := @isDeclared_declaredNames items each entry.1
  induction entries generalizing left with
  | nil =>
    constructor
    · intro leaves
      cases leaves
      rfl
    · rintro rfl
      exact .nil
  | cons entry entries ih =>
    by_cases here : DeclaredKey items entry.1
    · rw [List.filter_cons_of_neg (by simp [declared.mpr here])]
      constructor
      · intro leaves
        cases leaves with
        | declared _ later => exact ih.mp later
        | other undeclared => exact absurd here undeclared
      · intro same
        exact .declared here (ih.mpr same)
    · have free : isDeclared (declaredNames items) entry.1 = false :=
        Bool.eq_false_iff.mpr fun taken => here (declared.mp taken)
      rw [List.filter_cons_of_pos (by simp [free])]
      constructor
      · intro leaves
        cases leaves with
        | declared taken => exact absurd taken here
        | other _ later => rw [ih.mp later]
      · rintro rfl
        exact .other here (ih.mpr rfl)

/-- Keys fit if all declared names are there and, without a rest, no other key is. -/
theorem keysFit_iff (each : ∀ item ∈ items, Pattern.Readable (.item .fields) item) :
    keysFit items entries = true ↔
      (∀ name, Declares items name → ∃ entry ∈ entries, entry.1.text? = some name) ∧
        ((∀ item ∈ items, item.isRest = false) → ∀ entry ∈ entries, DeclaredKey items entry.1) := by
  have present : ((declaredNames items).all fun name => (Value.lookupText entries name).isSome) =
      true ↔ ∀ name, Declares items name → ∃ entry ∈ entries, entry.1.text? = some name := by
    rw [List.all_eq_true]
    constructor
    · intro all name declares
      obtain ⟨value, found⟩ := Option.isSome_iff_exists.mp
        (all name ((mem_declaredNames each).mpr declares))
      obtain ⟨entry, member, named, -⟩ := (Value.under_iff.mpr found).exists_mem
      exact ⟨entry, member, named⟩
    · intro all name member
      obtain ⟨entry, inside, named⟩ := all name ((mem_declaredNames each).mp member)
      obtain ⟨value, under⟩ := Value.exists_under inside named
      exact Option.isSome_iff_exists.mpr ⟨value, Value.under_iff.mp under⟩
  have closed : (hasRest items || entries.all fun entry =>
        isDeclared (declaredNames items) entry.1) = true ↔
      ((∀ item ∈ items, item.isRest = false) → ∀ entry ∈ entries, DeclaredKey items entry.1) := by
    rw [Bool.or_eq_true, List.all_eq_true]
    simp only [isDeclared_declaredNames each]
    constructor
    · rintro (rest | all) noRest
      · obtain ⟨item, member, isRest⟩ := List.any_eq_true.mp rest
        cases isRest.symm.trans (noRest item member)
      · exact all
    · intro closed
      cases rest : hasRest items with
      | true => exact .inl rfl
      | false =>
        refine .inr (closed fun item member => ?_)
        exact Bool.eq_false_iff.mpr (List.any_eq_false.mp rest item member)
  rw [keysFit, Bool.and_eq_true, present, closed]

end Names

/-! ## Runs over items -/

section Runs

variable {ctx : Context} {items more : List Pattern} {entries : List (Value × Value)} {v : Value}
  {captures : List Value} {failure : Failure}

theorem runFields_wildcard {names : List Text} :
    runFields ctx names (.rest .wildcard :: more) entries = runFields ctx names more entries :=
  runFields_rest fun _ => nofun

theorem runFields_iff (each : ∀ item ∈ items, Pattern.Readable (.item .fields) item)
    (part : ∀ item ∈ more, Pattern.Readable (.item .fields) item) :
    (runFields ctx (declaredNames items) more entries).result = .ok (some captures) ↔
      FieldsMatch ctx items entries more captures := by
  induction more generalizing captures with
  | nil =>
    rw [runFields]
    constructor
    · intro ended
      cases ended
      exact .nil
    · intro all
      cases all
      rfl
  | cons item more ih =>
    have later {others : List Value} :=
      @ih others fun other member => part other (List.mem_cons_of_mem item member)
    cases part item List.mem_cons_self with
    | key name =>
      rw [runFields, both_some_iff]
      simp only [later, overEntry_some_iff, ← Value.under_iff]
      constructor
      · rintro ⟨_, others, ⟨value, under, captured⟩, all, rfl⟩
        cases captured
        exact .key under all
      · intro all
        cases all with
        | key under all => exact ⟨_, _, ⟨_, under, rfl⟩, all, rfl⟩
    | keyValue name readable =>
      rw [runFields, both_some_iff]
      simp only [later, overEntry_some_iff, ← Value.under_iff]
      constructor
      · rintro ⟨own, others, ⟨value, under, ran⟩, all, rfl⟩
        exact .keyValue under ran all
      · intro all
        cases all with
        | keyValue under ran all => exact ⟨_, _, ⟨_, under, ran⟩, all, rfl⟩
    | rest readable holds =>
      obtain rfl | ⟨name, rfl⟩ := holds rfl
      · rw [runFields_wildcard, later]
        constructor
        · exact .unnamed
        · intro all
          cases all with
          | unnamed all => exact all
      · rw [runFields, both_some_iff]
        simp only [later]
        constructor
        · rintro ⟨own, others, left, all, rfl⟩
          cases left
          exact .named ((leaves_iff each).mpr rfl) all
        · intro all
          cases all with
          | named left all =>
            rw [(leaves_iff each).mp left]
            exact ⟨_, _, rfl, all, rfl⟩

/-- A value is matched exactly if it is a mapping that the items match. -/
theorem mapping_iff (each : ∀ item ∈ items, Pattern.Readable (.item .fields) item) :
    (overEntries items v (runFields ctx (declaredNames items) items)).result =
        .ok (some captures) ↔ MappingMatch ctx items v captures := by
  rw [overEntries_some_iff]
  simp only [keysFit_iff each, runFields_iff each each, ← Value.hasEntries_iff]
  constructor
  · rintro ⟨entries, has, ⟨present, closed⟩, all⟩
    exact .intro has present closed all
  · rintro ⟨has, present, closed, all⟩
    exact ⟨_, has, ⟨present, closed⟩, all⟩

/-- Items whose names are all there fail only where a pattern does on the value under its name. -/
theorem runFields_error {names : List Text}
    (part : ∀ item ∈ more, Pattern.Readable (.item .fields) item)
    (present : ∀ name, Declares more name → ∃ entry ∈ entries, entry.1.text? = some name)
    (failed : (runFields ctx names more entries).result = .error failure) :
    ∃ name inner value, .keyValue name inner ∈ more ∧ Value.Under name entries value ∧
      (run ctx inner value).result = .error failure := by
  induction more with
  | nil => cases failed
  | cons item more ih =>
    have later (failed : (runFields ctx names more entries).result = .error failure) :
        ∃ name inner value, .keyValue name inner ∈ item :: more ∧ Value.Under name entries value ∧
          (run ctx inner value).result = .error failure := by
      obtain ⟨name, inner, value, member, found⟩ := ih
        (fun other member => part other (List.mem_cons_of_mem item member))
        (fun name declares => present name <|
          declares.imp (List.mem_cons_of_mem item) fun ⟨inner, member⟩ =>
            ⟨inner, List.mem_cons_of_mem item member⟩) failed
      exact ⟨name, inner, value, List.mem_cons_of_mem item member, found⟩
    have under {name : Text} (declares : Declares (item :: more) name) :
        ∃ value, Value.Under name entries value := by
      obtain ⟨entry, member, named⟩ := present name declares
      exact Value.exists_under member named
    cases part item List.mem_cons_self with
    | key name =>
      obtain ⟨value, found⟩ := under (.inl List.mem_cons_self)
      rw [runFields, overEntry, Value.under_iff.mp found] at failed
      rcases both_error failed with here | behind
      · cases here
      · exact later behind
    | @keyValue name inner =>
      obtain ⟨value, found⟩ := under (.inr ⟨_, List.mem_cons_self⟩)
      rw [runFields, overEntry, Value.under_iff.mp found] at failed
      rcases both_error failed with here | behind
      · exact ⟨name, inner, value, List.mem_cons_self, found, here⟩
      · exact later behind
    | rest readable holds =>
      obtain rfl | ⟨name, rfl⟩ := holds rfl
      · rw [runFields_wildcard] at failed
        exact later failed
      · rw [runFields] at failed
        rcases both_error failed with here | behind
        · cases here
        · exact later behind

/-- A mapping fails only where its keys fit and a pattern fails on the value under its name: no
declared name is ever missing. -/
theorem mapping_error (each : ∀ item ∈ items, Pattern.Readable (.item .fields) item)
    (failed : (overEntries items v (runFields ctx (declaredNames items) items)).result =
      .error failure) :
    ∃ entries name inner value, v.HasEntries entries ∧ keysFit items entries = true ∧
      .keyValue name inner ∈ items ∧ Value.Under name entries value ∧
      (run ctx inner value).result = .error failure := by
  unfold overEntries at failed
  split at failed
  · cases failed
  · next entries found =>
    split at failed
    · next fits =>
      have present := ((keysFit_iff each).mp fits).1
      obtain ⟨name, inner, value, here⟩ := runFields_error each present failed
      exact ⟨entries, name, inner, value, Value.hasEntries_iff.mpr found, fits, here⟩
    · cases failed

end Runs

/-! ## Names and what is left -/

/-- What a key or a named rest captures, by the value of each name and the entries that are left. -/
def fieldCapture (value : Text → Value) (left : List (Value × Value)) : Pattern → Value
  | .key name => value name
  | _ => .map left

section Shares

variable {ctx : Context} {items more : List Pattern} {entries left : List (Value × Value)}
  {v : Value} {captures : List Value}

theorem captures_eq_map {value : Text → Value}
    (each : ∀ item ∈ items, Pattern.Readable (.item .fields) item)
    (plain : ∀ item ∈ more, (∃ name, item = .key name) ∨ ∃ name, item = .rest (.identifier name))
    (looked : ∀ name found, Value.Under name entries found → value name = found)
    (leaves : Leaves items entries left) (matched : FieldsMatch ctx items entries more captures) :
    captures = more.map (fieldCapture value left) := by
  induction matched with
  | nil => rfl
  | @key name found more captures under _ ih =>
    rw [List.map_cons, fieldCapture, looked name found under,
      ih fun item member => plain item (List.mem_cons_of_mem _ member)]
  | @named name others more captures same _ ih =>
    have alike : others = left := by
      rw [(leaves_iff each).mp same, (leaves_iff each).mp leaves]
    rw [List.map_cons, fieldCapture, alike,
      ih fun item member => plain item (List.mem_cons_of_mem _ member)]
    exact nofun
  | keyValue | unnamed =>
    rcases plain _ List.mem_cons_self with ⟨_, same⟩ | ⟨_, same⟩ <;> cases same

/-- Entries under declared names are told apart by these names. -/
theorem nodup_named {names : List Text} {named : List (Value × Value)}
    (distinct : Value.DistinctKeys named)
    (declared : ∀ entry ∈ named, isDeclared names entry.1 = true) :
    (named.map fun entry => (entry.1.text?, entry.2)).Nodup := by
  rw [List.Nodup, List.pairwise_map]
  refine List.Pairwise.imp_of_mem (fun {a b} first second apart same => ?_) distinct
  obtain ⟨name, -, one⟩ := isDeclared_iff.mp (declared a first)
  have two : b.1.text? = some name := (congrArg Prod.fst same).symm.trans one
  cases (Value.sameKey_of_text? one two).symm.trans apart

/-- Where all items are keys or a named rest, the values under the declared names and the entries
that are left share out the entries of the mapping: none is lost and none is there twice. -/
theorem shares_out (each : ∀ item ∈ items, Pattern.Readable (.item .fields) item)
    (plain : ∀ item ∈ items, (∃ name, item = .key name) ∨ ∃ name, item = .rest (.identifier name))
    (has : v.HasEntries entries) (distinct : Value.DistinctKeys entries)
    (matched : MappingMatch ctx items v captures) :
    ∃ (value : Text → Value) (named left : List (Value × Value)),
      captures = items.map (fieldCapture value left) ∧ Leaves items entries left ∧
      entries.Perm (named ++ left) ∧
      (named.map fun entry => (entry.1.text?, entry.2)).Perm
        ((declaredNames items).dedup.map fun name => (some name, value name)) := by
  obtain ⟨other, present, -, fields⟩ := matched
  obtain rfl : entries = _ :=
    Option.some.inj ((Value.hasEntries_iff.mp has).symm.trans (Value.hasEntries_iff.mp other))
  let value (name : Text) : Value := (Value.lookupText entries name).getD .null
  let named := entries.filter fun entry => isDeclared (declaredNames items) entry.1
  have looked (name : Text) (found : Value) (under : Value.Under name entries found) :
      value name = found := by
    simp only [value, Value.under_iff.mp under, Option.getD_some]
  have leaves : Leaves items entries
      (entries.filter fun entry => !isDeclared (declaredNames items) entry.1) :=
    (leaves_iff each).mpr rfl
  refine ⟨value, named, _, captures_eq_map each plain looked leaves fields, leaves,
    (List.filter_append_perm _ entries).symm, ?_⟩
  have declared : ∀ entry ∈ named, isDeclared (declaredNames items) entry.1 = true :=
    fun entry member => (List.mem_filter.mp member).2
  have apart := nodup_named (distinct.sublist List.filter_sublist) declared
  have once : ((declaredNames items).dedup.map fun name => (some name, value name)).Nodup := by
    refine List.Nodup.map (fun a b same => ?_) (List.nodup_dedup _)
    exact Option.some.inj (congrArg Prod.fst same)
  -- Neither side has an entry twice, so it is enough that they have the same ones.
  rw [List.perm_ext_iff_of_nodup apart once]
  rintro ⟨text, found⟩
  simp only [List.mem_map, List.mem_dedup, Prod.mk.injEq]
  constructor
  · rintro ⟨entry, member, rfl, rfl⟩
    obtain ⟨name, inside, text⟩ := isDeclared_iff.mp (declared entry member)
    exact ⟨name, inside, text.symm, looked name _
      (distinct.under (List.mem_filter.mp member).1 text)⟩
  · rintro ⟨name, inside, rfl, rfl⟩
    obtain ⟨entry, member, text⟩ := present name ((mem_declaredNames each).mp inside)
    refine ⟨entry, List.mem_filter.mpr ⟨member, isDeclared_iff.mpr ⟨name, inside, text⟩⟩, text, ?_⟩
    exact (looked name _ (distinct.under member text)).symm

end Shares

/-! ## Nodes -/

/-- The value in whose entries a node with items looks, if it comes to them. -/
inductive Enters (ctx : Context) (v : Value) : Pattern → Value → Prop where
  | object (items : List Pattern) : Enters ctx v (.object items) v
  | tagObject {name : Text} {items : List Pattern} {components : Value} :
      ctx.typeMatches v name = true → (ctx.keyed v).result = .ok (some components) →
      Enters ctx v (.tagObject name items) components

end Matching

namespace Pattern

/-- The items that a node matches against the entries of a mapping. -/
def mappingItems? : Pattern → Option (List Pattern)
  | object items | tagObject _ items => some items
  | _ => none

theorem Readable.mapping {role : Role} {p : Pattern} {items : List Pattern}
    (readable : Readable role p) (holds : p.mappingItems? = some items) :
    ReadableItems .fields items := by
  induction readable with
  | object each rests | tagObject _ each rests =>
    cases holds
    exact ⟨each, rests⟩
  | element _ ih => exact ih holds
  | _ => cases holds

/-- The items of every object in a readable tree are readable. -/
theorem Occurs.mapping {arguments items : List Pattern} {p : Pattern}
    (occurs : (argumentList arguments).Occurs p) (readable : ReadableItems .sequence arguments)
    (holds : p.mappingItems? = some items) : ReadableItems .fields items := by
  cases occurs with
  | root => cases holds
  | child member below =>
    obtain ⟨role, found⟩ := below.readable (readable.each _ member)
    exact found.mapping holds

end Pattern

namespace Matching

section Nodes

variable {ctx : Context} {p : Pattern} {items : List Pattern} {v : Value}

/-- A node with readable items matches exactly the mappings that the items match. -/
theorem matches_mapping_iff (each : ∀ item ∈ items, Pattern.Readable (.item .fields) item)
    (holds : p.mappingItems? = some items) {captures : List Value} :
    Matches ctx p v captures ↔ ∃ w, Enters ctx v p w ∧ MappingMatch ctx items w captures := by
  unfold Matches
  cases p with
  | object =>
    cases holds
    rw [run, mapping_iff each]
    constructor
    · intro matched
      exact ⟨v, .object items, matched⟩
    · rintro ⟨w, entered, matched⟩
      cases entered
      exact matched
  | tagObject name =>
    cases holds
    rw [run, overComponents_some_iff]
    simp only [mapping_iff each]
    constructor
    · rintro ⟨isInstance, w, asked, matched⟩
      exact ⟨w, .tagObject isInstance asked, matched⟩
    · rintro ⟨w, entered, matched⟩
      cases entered with
      | tagObject isInstance asked => exact ⟨isInstance, w, asked, matched⟩
  | _ => cases holds

/-- A node with items fails only where its keys fit and one of their patterns fails on the value
under its name, or where the components of a class are asked for. -/
theorem mappingNode_raises (each : ∀ item ∈ items, Pattern.Readable (.item .fields) item)
    (holds : p.mappingItems? = some items) {failure : Failure}
    (failed : (run ctx p v).result = .error failure) :
    (∃ name, p = .tagObject name items ∧ ctx.typeMatches v name = true ∧
        (ctx.keyed v).result = .error failure) ∨
      ∃ w entries name inner value, Enters ctx v p w ∧ w.HasEntries entries ∧
        keysFit items entries = true ∧ .keyValue name inner ∈ items ∧
        Value.Under name entries value ∧ (run ctx inner value).result = .error failure := by
  cases p with
  | object =>
    cases holds
    rw [run] at failed
    obtain ⟨entries, name, inner, value, found⟩ := mapping_error each failed
    exact .inr ⟨v, entries, name, inner, value, .object items, found⟩
  | tagObject name =>
    cases holds
    rw [run] at failed
    obtain ⟨isInstance, raised | ⟨w, asked, failed⟩⟩ := overComponents_error failed
    · exact .inl ⟨name, rfl, isInstance, raised⟩
    · obtain ⟨entries, field, inner, value, found⟩ := mapping_error each failed
      exact .inr ⟨w, entries, field, inner, value, .tagObject isInstance asked, found⟩
  | _ => cases holds

theorem mappingNode_error (each : ∀ item ∈ items, Pattern.Readable (.item .fields) item)
    (holds : p.mappingItems? = some items) {failure : Failure}
    (failed : (run ctx p v).result = .error failure) :
    (∃ name, p = .tagObject name items ∧ ctx.typeMatches v name = true ∧
        (ctx.keyed v).result = .error failure) ∨
      ∃ w entries name inner value, Enters ctx v p w ∧ w.HasEntries entries ∧
        .keyValue name inner ∈ items ∧ Value.Under name entries value ∧
        (run ctx inner value).result = .error failure := by
  obtain refused | ⟨w, entries, name, inner, value, entered, has, -, found⟩ :=
    mappingNode_raises each holds failed
  · exact .inl refused
  · exact .inr ⟨w, entries, name, inner, value, entered, has, found⟩

end Nodes

end Matching

namespace Pattern.Parser

open Matching

/-- The meaning of object items, at every node of a tree that is read from text. A value is matched
exactly if it, or what stands for it under a class name, is a mapping that has every declared name
and, without a rest, no other key, and if the items match what they name. The captures are joined in
the order of the items; a named rest adds the entries that no item declares, wherever it stands. A
run fails only where a pattern fails on the value under its name, so no declared name is ever
missing, or where a class refuses its components. If no value is looked into, the names and the rest
share out all entries. -/
theorem mapping_match_iff {text : Text} {tree : Pattern} (read : parse text = .ok tree) :
    (∃ procedure, Procedure.ofText text = .ok procedure ∧
      ∀ (ctx : Context) (arguments : List Value),
        procedure.run ctx arguments = run ctx tree (.tuple arguments)) ∧
    ∀ p items, tree.Occurs p → p.mappingItems? = some items → ∀ (ctx : Context) (v : Value),
      (∀ captures, (run ctx p v).result = .ok (some captures) ↔
        ∃ w, Enters ctx v p w ∧ MappingMatch ctx items w captures) ∧
      (∀ failure, (run ctx p v).result = .error failure →
        (∃ name, p = .tagObject name items ∧ ctx.typeMatches v name = true ∧
            (ctx.keyed v).result = .error failure) ∨
          ∃ w entries name inner value, Enters ctx v p w ∧ w.HasEntries entries ∧
            .keyValue name inner ∈ items ∧ Value.Under name entries value ∧
            (run ctx inner value).result = .error failure) ∧
      ((∀ item ∈ items, (∃ name, item = .key name) ∨ ∃ name, item = .rest (.identifier name)) →
        ∀ w entries captures, w.HasEntries entries → Value.DistinctKeys entries →
          MappingMatch ctx items w captures →
          ∃ (value : Text → Value) (named left : List (Value × Value)),
            captures = items.map (fieldCapture value left) ∧ Leaves items entries left ∧
            entries.Perm (named ++ left) ∧
            (named.map fun entry => (entry.1.text?, entry.2)).Perm
              ((declaredNames items).dedup.map fun name => (some name, value name))) := by
  constructor
  · obtain ⟨procedure, ofText, compiles⟩ := Procedure.exists_ofText read
    exact ⟨procedure, ofText, Procedure.run_ofTree read compiles⟩
  · intro p items occurs holds ctx v
    obtain ⟨arguments, rfl, readable⟩ := Grammar.readable_of_parse read
    have each := (occurs.mapping readable holds).each
    exact ⟨fun captures => matches_mapping_iff each holds,
      fun failure failed => mappingNode_error each holds failed,
      fun plain w entries captures has distinct matched =>
        shares_out each plain has distinct matched⟩

/-- A rest in front of a key leaves it out, and keeps the order of the other entries and a key that
is no text. -/
theorem mapping_match_iff_first :
    let a : Value := .str (Text.ofString "a")
    let b : Value := .str (Text.ofString "b")
    let entries : List (Value × Value) := [(b, .int 1), (a, .int 2), (.int 7, .int 3)]
    ∃ procedure, Procedure.ofText (Text.ofString "\x7b...r,a\x7d") = .ok procedure ∧
      Value.DistinctKeys entries ∧
      ∀ ctx, (procedure.run ctx [.map entries]).result =
          .ok (some [.map [(b, .int 1), (.int 7, .int 3)], .int 2]) ∧
        ∃ named : List (Value × Value),
          entries.Perm (named ++ [(b, .int 1), (.int 7, .int 3)]) ∧
          named.map (fun entry => (entry.1.text?, entry.2)) =
            [(some (Text.ofString "a"), .int 2)] := by
  intro a b entries
  let name : Text := Text.ofString "a"
  let items : List Pattern := [.rest (.identifier (Text.ofString "r")), .key name]
  have read : parse (Text.ofString "\x7b...r,a\x7d") = .ok (.argumentList [.object items]) := rfl
  obtain ⟨⟨procedure, ofText, runs⟩, nodes⟩ := mapping_match_iff read
  have distinct : Value.DistinctKeys entries := by
    obtain ⟨made, same, distinct⟩ := Value.distinctKeys_mapOf entries
    obtain rfl : entries = made := Value.map.inj same
    exact distinct
  refine ⟨procedure, ofText, distinct, fun ctx => ?_⟩
  have captured : (run ctx (.object items) (.map entries)).result =
      .ok (some [.map [(b, .int 1), (.int 7, .int 3)], .int 2]) := rfl
  obtain ⟨meaning, -, shares⟩ :=
    nodes (.object items) items (.child (.head _) (.root _)) rfl ctx (.map entries)
  obtain ⟨w, entered, matched⟩ := (meaning _).mp captured
  cases entered
  have plain : ∀ item ∈ items,
      (∃ name, item = .key name) ∨ ∃ name, item = .rest (.identifier name) := by
    simp [items]
  obtain ⟨value, named, left, same, -, perm, names⟩ :=
    shares plain _ entries _ (.map rfl) distinct matched
  obtain ⟨rest, two⟩ := List.cons.inj same
  cases rest
  have there : value name = .int 2 := (List.cons.inj two).1.symm
  refine ⟨?_, named, perm, ?_⟩
  · rw [runs]
    rfl
  · have alone : (declaredNames items).dedup.map (fun name => (some name, value name)) =
        [(some name, .int 2)] := by
      rw [← there]
      rfl
    rw [alone] at names
    exact List.perm_singleton.mp names

end Pattern.Parser

end PatternDispatch
