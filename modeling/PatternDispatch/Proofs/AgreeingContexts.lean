import PatternDispatch.Proofs.MatchSteps
import PatternDispatch.Proofs.VisitOrder

/-!
Runs in two contexts. A run consults its context only where it visits a class, its components or an
extractor. Where another context gives the same answers on all visits, a pattern runs alike in both.
-/

namespace PatternDispatch

namespace Matching

/-- Whether two contexts give the same answer on a visit. -/
def Visit.Agrees (ctx other : Context) : Visit → Prop
  | className name v => other.typeMatches v name = ctx.typeMatches v name
  | components name v => other.positional v name = ctx.positional v name
  | entries v => other.keyed v = ctx.keyed v
  | extractor name v => other.extractors.call name v = ctx.extractors.call name v
  | test _ | comparison _ _ | sequence _ _ | mapping _ _ => True

/-- Whether two contexts give the same answers on all visits of a list. -/
def Agree (ctx other : Context) (visits : List Visit) : Prop :=
  ∀ visit ∈ visits, visit.Agrees ctx other

section Parts

variable {ctx other : Context} {items : List Pattern} {v : Value}

theorem Agree.front {visits others : List Visit} (agree : Agree ctx other (visits ++ others)) :
    Agree ctx other visits := (List.forall_mem_append.mp agree).1

theorem Agree.back {visits others : List Visit} (agree : Agree ctx other (visits ++ others)) :
    Agree ctx other others := (List.forall_mem_append.mp agree).2

theorem Agree.head {visit : Visit} {others : List Visit}
    (agree : Agree ctx other (visit :: others)) : visit.Agrees ctx other :=
  agree visit List.mem_cons_self

theorem Agree.tail {visit : Visit} {others : List Visit}
    (agree : Agree ctx other (visit :: others)) : Agree ctx other others :=
  (List.forall_mem_cons.mp agree).2

/-- A span is matched alike by what matches each of its elements alike. -/
theorem each_alike {run more : Value → Traced Match} {elements : List Value}
    (same : ∀ element ∈ elements, more element = run element) :
    each more elements = each run elements := by
  induction elements with
  | nil => rfl
  | cons element elements ih =>
    obtain ⟨one, others⟩ := List.forall_mem_cons.mp same
    unfold each
    rw [one, ih others]

theorem restCaptured_alike {inner : Pattern} {span : Value}
    {rows more : Unit → Traced (Option (List (List Value)))} (same : more () = rows ()) :
    restCaptured inner span more = restCaptured inner span rows := by
  cases inner with
  | wildcard | identifier => rfl
  | _ => exact congrArg (collected _) same

theorem overElements_alike {next more : List Value → Traced Match}
    (same : more (v.elements?.getD []) = next (v.elements?.getD [])) :
    overElements items v more = overElements items v next := by
  unfold overElements
  cases found : v.elements? with
  | none => rfl
  | some elements =>
    rw [found, Option.getD_some] at same
    dsimp only
    rw [same]

theorem overEntries_alike {next more : List (Value × Value) → Traced Match}
    (same : more (v.entries?.getD []) = next (v.entries?.getD [])) :
    overEntries items v more = overEntries items v next := by
  unfold overEntries
  cases found : v.entries? with
  | none => rfl
  | some entries =>
    rw [found, Option.getD_some] at same
    dsimp only
    rw [same]

theorem overComponents_alike {holds : Bool} {components : Traced (Option Value)}
    {next more : Value → Traced Match}
    (same : ∀ found, components.result = .ok (some found) → more found = next found) :
    overComponents holds components more = overComponents holds components next := by
  unfold overComponents
  split
  · apply Traced.bind_congr
    intro found answered
    cases found with
    | none => rfl
    | some found => exact same found answered
  · rfl

theorem overExtracted_alike {result : Traced Value} {next more : Value → Traced Match}
    (same : ∀ extracted, result.result = .ok (.pass extracted) → more extracted = next extracted) :
    overExtracted result more = overExtracted result next := by
  unfold overExtracted
  apply Traced.bind_congr
  intro answer called
  cases answer with
  | pass extracted => exact same extracted called
  | _ => rfl

theorem overEntry_alike {entries : List (Value × Value)} {name : Text}
    {next more : Value → Traced Match}
    (same : ∀ value, Value.lookupText entries name = some value → more value = next value) :
    overEntry entries name more = overEntry entries name next := by
  unfold overEntry
  split
  · rfl
  · next value found => exact same value found

/-- What is visited behind a name that a mapping has is among the visits of its items. -/
theorem Agree.lookup {entries : List (Value × Value)} {name : Text} {visited : Value → List Visit}
    {value : Value} (agree : Agree ctx other ((Value.lookupText entries name).elim [] visited))
    (found : Value.lookupText entries name = some value) : Agree ctx other (visited value) := by
  rw [found] at agree
  exact agree

end Parts

section Runs

variable {ctx other : Context}

mutual

/-- A pattern runs alike in two contexts that agree on all its visits. -/
theorem run_agrees (p : Pattern) (v : Value) (agree : Agree ctx other (visits ctx p v)) :
    run other p v = run ctx p v := by
  cases p with
  | wildcard | null | undefined | boolean | number | string | identifier | rest | key | keyValue
  | blank => simp only [run]
  | binder name inner =>
    rw [visits] at agree
    rw [run, run, run_agrees inner v agree]
  | array items | argumentList items =>
    rw [visits] at agree
    rw [run, run]
    exact overElements_alike (runItems_agrees items v 0 _ agree.tail)
  | object items =>
    rw [visits] at agree
    rw [run, run]
    exact overEntries_alike (runFields_agrees _ items _ agree.tail)
  | tag name =>
    rw [visits] at agree
    rw [run, run, agree.head]
  | tagArray name items =>
    rw [visits] at agree
    rw [run, run, agree.head, agree.tail.head]
    apply overComponents_alike
    intro found answered
    have below := agree.tail.tail
    rw [answered] at below
    exact overElements_alike (runItems_agrees items found 0 _ below.tail)
  | tagObject name items =>
    rw [visits] at agree
    rw [run, run, agree.head, agree.tail.head]
    apply overComponents_alike
    intro found answered
    have below := agree.tail.tail
    rw [answered] at below
    exact overEntries_alike (runFields_agrees _ items _ below.tail)
  | extractor name =>
    rw [visits] at agree
    rw [run, run, agree.head]
  | extractorOf name inner =>
    rw [visits] at agree
    rw [run, run, agree.head]
    apply overExtracted_alike
    intro extracted answered
    have below := agree.tail
    rw [answered] at below
    exact run_agrees inner extracted below
termination_by sizeOf p

theorem runItems_agrees (items : List Pattern) (whole : Value) (start : Nat)
    (elements : List Value) (agree : Agree ctx other (itemVisits ctx items elements)) :
    runItems other items whole start elements = runItems ctx items whole start elements := by
  match items with
  | [] => rw [runItems, runItems]
  | item :: items =>
    cases isRest : item.isRest with
    | true =>
      obtain ⟨inner, rfl⟩ := Pattern.exists_rest isRest
      rw [itemVisits] at agree
      rw [runItems_rest, runItems_rest]
      apply both_congr
      · apply restCaptured_alike
        apply each_alike
        intro element member
        refine run_agrees inner element fun visit here => agree.front visit ?_
        exact List.mem_flatMap.mpr ⟨element, member, here⟩
      · intro captures matched
        exact runItems_agrees items whole _ _ agree.back
    | false =>
      cases elements with
      | nil => rw [runItems_short isRest, runItems_short isRest]
      | cons element elements =>
        rw [itemVisits_item isRest] at agree
        rw [runItems_item isRest, runItems_item isRest]
        apply both_congr
        · exact run_agrees item element agree.front
        · intro captures matched
          exact runItems_agrees items whole _ elements agree.back
termination_by sizeOf items

theorem runFields_agrees (names : List Text) (items : List Pattern)
    (entries : List (Value × Value)) (agree : Agree ctx other (fieldVisits ctx items entries)) :
    runFields other names items entries = runFields ctx names items entries := by
  match items with
  | [] => rw [runFields, runFields]
  | item :: items =>
    cases item with
    | keyValue name inner | binder name inner | extractorOf name inner =>
      rw [fieldVisits] at agree
      rw [runFields, runFields]
      apply both_congr
      · apply overEntry_alike
        intro value found
        exact run_agrees inner value (agree.front.lookup found)
      · intro captures matched
        exact runFields_agrees names items entries agree.back
    | tagArray name inner =>
      rw [fieldVisits] at agree
      rw [runFields, runFields]
      apply both_congr
      · apply overEntry_alike
        intro value found
        exact overElements_alike (runItems_agrees inner value 0 _ (agree.front.lookup found).tail)
      · intro captures matched
        exact runFields_agrees names items entries agree.back
    | tagObject name inner =>
      rw [fieldVisits] at agree
      rw [runFields, runFields]
      apply both_congr
      · apply overEntry_alike
        intro value found
        exact overEntries_alike (runFields_agrees _ inner _ (agree.front.lookup found).tail)
      · intro captures matched
        exact runFields_agrees names items entries agree.back
    | key name =>
      simp only [fieldVisits] at agree
      rw [runFields, runFields, runFields_agrees names items entries agree]
    | rest inner =>
      simp only [fieldVisits] at agree
      have behind := runFields_agrees names items entries agree
      by_cases named : ∃ name, inner = .identifier name
      · obtain ⟨name, rfl⟩ := named
        rw [runFields, runFields, behind]
      · rw [runFields_rest fun name is => named ⟨name, is⟩,
          runFields_rest fun name is => named ⟨name, is⟩, behind]
    | _ =>
      simp only [fieldVisits] at agree
      simp only [runFields, runFields_agrees names items entries agree]
termination_by sizeOf items

end

end Runs

end Matching

end PatternDispatch
