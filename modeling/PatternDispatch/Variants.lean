import PatternDispatch.Action
import PatternDispatch.Context

/-!
A table of sum types. Each name stands for classes, its variants, and a variant is also entered
under its own name unless that name is taken. Every variant exposes slots.
-/

namespace PatternDispatch

abbrev Variants := Table (List Text)

namespace Variants

def classSlotNames? (classes : ClassTable) (name : Text) : Option (List Text) :=
  (classes.find? name).bind fun c => c.matchArgs?.or c.dataFields?

/-- Adds variants to a name, all of them or, if one exposes no slots, none. -/
def register (classes : ClassTable) (name : Text) (variants : List Text) : Action Variants Unit :=
  match variants.find? fun variant => (classSlotNames? classes variant).isNone with
  | some variant => Action.fail (.noSlots variant)
  | none => do
    Action.change fun types =>
      variants.foldl (fun found variant => found.insertNew variant [variant])
        (types.insert name ((types.find? name).getD [] ++ variants))
    Action.note (.sumTypeRegistered name variants)

/-- Registers sum types one by one. -/
def registerAll (classes : ClassTable) : List (Text × List Text) → Action Variants Unit
  | [] => pure ()
  | (name, variants) :: types => do
    register classes name variants
    registerAll classes types

def slotNames (classes : ClassTable) (v : Value) : Except Failure (List Text) :=
  match v.slotNames? classes with
  | some names => .ok names
  | none => .error (.noSlots v.typeName)

def arity (classes : ClassTable) (v : Value) : Except Failure Nat :=
  (slotNames classes v).map List.length

/-- The name at a position, counted from the end when negative. -/
def nameAt? (names : List Text) (index : Int) : Option Text :=
  if index < 0 then
    if index.natAbs ≤ names.length then names[names.length - index.natAbs]? else none
  else names[index.toNat]?

def slot (classes : ClassTable) (v : Value) (index : Int) : Except Failure Value :=
  match slotNames classes v with
  | .error failure => .error failure
  | .ok names =>
    match nameAt? names index with
    | none => .error .slotOutOfRange
    | some name => v.getAttribute classes name

/-- The table as patterns consult it. The slots of a value are those of its own class, so none of
them depends on what is entered. -/
def sumTypes (classes : ClassTable) (types : Variants) : SumTypes where
  find? := types.find?
  arity v := (arity classes v).map Int.ofNat
  slot := slot classes

theorem nameAt?_natCast (names : List Text) (index : Nat) :
    nameAt? names index = names[index]? := by
  rw [nameAt?, if_neg (by omega), Int.toNat_natCast]

section Slots

variable {classes : ClassTable} {v : Value}

theorem slotsFrom_sumTypes (types : Variants) {front names : List Text}
    (known : slotNames classes v = .ok (front ++ names)) :
    (types.sumTypes classes).slotsFrom v front.length names.length =
      v.getAttributes classes names := by
  induction names generalizing front with
  | nil => rfl
  | cons name names ih =>
    have first : slot classes v front.length = v.getAttribute classes name := by
      rw [slot, known]
      dsimp only
      rw [nameAt?_natCast, List.getElem?_append_right (Nat.le_refl _), Nat.sub_self]
      rfl
    have others := @ih (front ++ [name]) (by rw [known, List.append_assoc]; rfl)
    rw [List.length_append, List.length_singleton] at others
    have asked : (types.sumTypes classes).slot v front.length = _ := first
    rw [List.length_cons, SumTypes.slotsFrom, asked, others]
    rfl

/-- The slots of a value are the attributes of its slot names. -/
theorem slots_sumTypes (types : Variants) :
    (types.sumTypes classes).slots v =
      match slotNames classes v with
      | .error failure => .error failure
      | .ok names => (v.getAttributes classes names).map .list := by
  unfold SumTypes.slots
  dsimp only [sumTypes, arity]
  cases known : slotNames classes v with
  | error failure => rfl
  | ok names => exact congrArg (Except.map Value.list) (@slotsFrom_sumTypes _ _ types [] _ known)

end Slots

end Variants

/-! ## Contexts with a table -/

namespace Context

/-- A context with the sum types of a table. -/
def withSumTypes (ctx : Context) (types : Variants) : Context :=
  { ctx with sumTypes? := some (types.sumTypes ctx.classes) }

/-- The sum types of a context are those of a table, or there are none. -/
def UsesTable (ctx : Context) (types? : Option Variants) : Prop :=
  ctx.sumTypes? = types?.map (Variants.sumTypes ctx.classes)

theorem UsesTable.exists_table {ctx : Context} {types? : Option Variants} {types : SumTypes}
    (uses : ctx.UsesTable types?) (known : ctx.sumTypes? = some types) :
    ∃ table, types? = some table ∧ types = table.sumTypes ctx.classes := by
  obtain ⟨table, isTable, same⟩ := Option.map_eq_some_iff.mp (uses.symm.trans known)
  exact ⟨table, isTable, same.symm⟩

end Context

end PatternDispatch
