import PatternDispatch.Proofs.VisitOrder
import PatternDispatch.Proofs.WellFormedTree

/-!
The nodes that a run visits. A node is run on a value and leads to other nodes on other values; what
is visited is what these nodes ask of their values. So what passes from a node and its value to all
that they lead to can be said of every visit.
-/

namespace PatternDispatch

namespace Pattern

/-- The class name that a node has. -/
def className? : Pattern → Option Text
  | tag name | tagArray name _ | tagObject name _ => some name
  | _ => none

/-- The name of the extractor that a node calls. -/
def extractorName? : Pattern → Option Text
  | extractor name | extractorOf name _ => some name
  | _ => none

/-- What an item of a sequence runs on each of its elements. -/
def onElement : Pattern → Pattern
  | rest inner => inner
  | p => p

theorem onElement_of_not_rest {item : Pattern} (notRest : item.isRest = false) :
    item.onElement = item := by
  cases item <;> first | rfl | cases notRest

theorem occurs_onElement (item : Pattern) : item.Occurs item.onElement := by
  cases item with
  | rest inner => exact (Occurs.root _).inside (.head _)
  | _ => exact .root _

end Pattern

namespace Matching

open Pattern

/-- What a node that is run on a value leads to, as nodes with the values that they are run on. -/
inductive Leads (ctx : Context) : Pattern → Value → Pattern → Value → Prop where
  | named {name inner v} : Leads ctx (.binder name inner) v inner v
  | element {items v item w} : item ∈ items → w ∈ v.elements?.getD [] →
      Leads ctx (.array items) v item.onElement w
  | argument {items v item w} : item ∈ items → w ∈ v.elements?.getD [] →
      Leads ctx (.argumentList items) v item.onElement w
  | field {items v item name inner w} : item ∈ items → fieldName? item = some name →
      inner ∈ item.children → Value.lookupText (v.entries?.getD []) name = some w →
      Leads ctx (.object items) v inner w
  | positional {name items v found} : (ctx.positional v name).result = .ok (some found) →
      Leads ctx (.tagArray name items) v (.array items) found
  | keyed {name items v found} : (ctx.keyed v).result = .ok (some found) →
      Leads ctx (.tagObject name items) v (.object items) found
  | extracted {name inner v found} : (ctx.extractors.call name v).result = .ok (.pass found) →
      Leads ctx (.extractorOf name inner) v inner found

/-- A node leads only to nodes below it, whatever the context answers. -/
theorem Leads.occurs {ctx : Context} {p q : Pattern} {v w : Value} (leads : Leads ctx p v q w) :
    p.Occurs q := by
  have below {r : Pattern} (member : r ∈ p.children) : p.Occurs r := (Occurs.root p).inside member
  cases leads with
  | named | positional | keyed | extracted => exact below (.head _)
  | element member | argument member => exact (below member).trans (occurs_onElement _)
  | field member _ inner => exact (below member).inside inner

/-- The visits that a node can ask for on a value, without those of the nodes that it leads to. -/
inductive Asks : Pattern → Value → Visit → Prop where
  | test {p v holds} : Asks p v (.test holds)
  | comparison {literal v} : Asks (.number literal) v (.comparison v literal)
  | sequence {items v} : Asks (.array items) v (.sequence items v)
  | arguments {items v} : Asks (.argumentList items) v (.sequence items v)
  | mapping {items v} : Asks (.object items) v (.mapping items v)
  | className {p name v} : p.className? = some name → Asks p v (.className name v)
  | components {name items v} : Asks (.tagArray name items) v (.components name v)
  | entries {name items v} : Asks (.tagObject name items) v (.entries v)
  | extractor {p name v} : p.extractorName? = some name → Asks p v (.extractor name v)

/-- All visits are asked for at nodes, with their values, of which something holds. -/
def AskedFrom (inv : Pattern → Value → Prop) (visits : List Visit) : Prop :=
  ∀ visit ∈ visits, ∃ p v, inv p v ∧ Asks p v visit

section Asked

variable {ctx : Context} {inv : Pattern → Value → Prop} {p : Pattern} {v : Value}

theorem askedFrom_nil : AskedFrom inv [] := List.forall_mem_nil _

theorem askedFrom_one {visit : Visit} (holds : inv p v) (asks : Asks p v visit) :
    AskedFrom inv [visit] := List.forall_mem_singleton.mpr ⟨p, v, holds, asks⟩

theorem AskedFrom.cons {visit : Visit} {visits : List Visit} (asked : AskedFrom inv visits)
    (holds : inv p v) (asks : Asks p v visit) : AskedFrom inv (visit :: visits) :=
  List.forall_mem_cons.mpr ⟨⟨p, v, holds, asks⟩, asked⟩

theorem AskedFrom.append {visits others : List Visit} (first : AskedFrom inv visits)
    (later : AskedFrom inv others) : AskedFrom inv (visits ++ others) :=
  List.forall_mem_append.mpr ⟨first, later⟩

theorem askedFrom_flatMap {elements : List Value} {visited : Value → List Visit}
    (each : ∀ w ∈ elements, AskedFrom inv (visited w)) :
    AskedFrom inv (elements.flatMap visited) := by
  intro visit member
  obtain ⟨w, inside, here⟩ := List.mem_flatMap.mp member
  exact each w inside visit here

theorem askedFrom_lookup {found : Option Value} {visited : Value → List Visit}
    (each : ∀ w, found = some w → AskedFrom inv (visited w)) :
    AskedFrom inv (found.elim [] visited) := by
  cases found with
  | none => exact askedFrom_nil
  | some w => exact each w rfl

mutual

/-- What holds of a node and its value, and passes to what they lead to, holds wherever a visit is
asked for. -/
theorem visits_asked (passes : ∀ {p v q w}, inv p v → Leads ctx p v q w → inv q w)
    {p : Pattern} {v : Value} (holds : inv p v) : AskedFrom inv (visits ctx p v) := by
  cases p with
  | wildcard | identifier => exact askedFrom_nil
  | null | undefined | boolean | string | rest | key | keyValue | blank =>
    exact askedFrom_one holds .test
  | number literal => exact askedFrom_one holds .comparison
  | binder name inner =>
    rw [visits]
    exact visits_asked passes (passes holds .named)
  | array items =>
    rw [visits]
    refine AskedFrom.cons (itemVisits_asked passes holds ?_) holds .sequence
    exact fun item member w inside => passes holds (.element member inside)
  | argumentList items =>
    rw [visits]
    refine AskedFrom.cons (itemVisits_asked passes holds ?_) holds .arguments
    exact fun item member w inside => passes holds (.argument member inside)
  | object items =>
    rw [visits]
    refine AskedFrom.cons (fieldVisits_asked passes ?_) holds .mapping
    intro item member name named inner below w found
    exact passes holds (.field member named below found)
  | tag name => exact askedFrom_one holds (.className rfl)
  | tagArray name items =>
    rw [visits]
    refine AskedFrom.cons (AskedFrom.cons ?_ holds .components) holds (.className rfl)
    split
    · next found answered =>
      have within : inv (.array items) found := passes holds (.positional answered)
      refine AskedFrom.cons (itemVisits_asked passes within ?_) within .sequence
      exact fun item member w inside => passes within (.element member inside)
    · exact askedFrom_nil
  | tagObject name items =>
    rw [visits]
    refine AskedFrom.cons (AskedFrom.cons ?_ holds .entries) holds (.className rfl)
    split
    · next found answered =>
      have within : inv (.object items) found := passes holds (.keyed answered)
      refine AskedFrom.cons (fieldVisits_asked passes ?_) within .mapping
      intro item member name named inner below w found
      exact passes within (.field member named below found)
    · exact askedFrom_nil
  | extractor name => exact askedFrom_one holds (.extractor rfl)
  | extractorOf name inner =>
    rw [visits]
    refine AskedFrom.cons ?_ holds (.extractor rfl)
    split
    · next found answered => exact visits_asked passes (passes holds (.extracted answered))
    · exact askedFrom_nil
termination_by sizeOf p

theorem itemVisits_asked (passes : ∀ {p v q w}, inv p v → Leads ctx p v q w → inv q w)
    {p : Pattern} {v : Value} (owner : inv p v) {items : List Pattern} {elements : List Value}
    (each : ∀ item ∈ items, ∀ w ∈ elements, inv item.onElement w) :
    AskedFrom inv (itemVisits ctx items elements) := by
  match items with
  | [] =>
    rw [itemVisits]
    exact askedFrom_nil
  | item :: items =>
    obtain ⟨first, others⟩ := List.forall_mem_cons.mp each
    cases isRest : item.isRest with
    | true =>
      obtain ⟨inner, rfl⟩ := Pattern.exists_rest isRest
      rw [itemVisits]
      refine (askedFrom_flatMap fun w inside => ?_).append (itemVisits_asked passes owner ?_)
      · exact visits_asked passes (first w (List.mem_of_mem_take inside))
      · exact fun item member w inside => others item member w (List.mem_of_mem_drop inside)
    | false =>
      cases elements with
      | nil =>
        -- No value is left for the item, so it is the sequence that asks.
        rw [itemVisits_short isRest]
        exact askedFrom_one owner .test
      | cons element elements =>
        rw [onElement_of_not_rest isRest] at first
        rw [itemVisits_item isRest]
        have own := visits_asked passes (first element List.mem_cons_self)
        refine own.append (itemVisits_asked passes owner fun item member w inside => ?_)
        exact others item member w (List.mem_cons_of_mem element inside)
termination_by sizeOf items

theorem fieldVisits_asked (passes : ∀ {p v q w}, inv p v → Leads ctx p v q w → inv q w)
    {items : List Pattern} {entries : List (Value × Value)}
    (each : ∀ item ∈ items, ∀ name, fieldName? item = some name → ∀ inner ∈ item.children,
      ∀ w, Value.lookupText entries name = some w → inv inner w) :
    AskedFrom inv (fieldVisits ctx items entries) := by
  match items with
  | [] =>
    rw [fieldVisits]
    exact askedFrom_nil
  | item :: items =>
    obtain ⟨first, others⟩ := List.forall_mem_cons.mp each
    have behind := fieldVisits_asked passes others
    cases item with
    | keyValue name inner | binder name inner | extractorOf name inner =>
      rw [fieldVisits]
      refine (askedFrom_lookup fun w found => ?_).append behind
      exact visits_asked passes (first name rfl inner List.mem_cons_self w found)
    | tagArray name inner =>
      rw [fieldVisits]
      refine (askedFrom_lookup fun w found => ?_).append behind
      have within : inv (.array inner) w := first name rfl _ List.mem_cons_self w found
      have all := visits_asked passes within
      rwa [visits] at all
    | tagObject name inner =>
      rw [fieldVisits]
      refine (askedFrom_lookup fun w found => ?_).append behind
      have within : inv (.object inner) w := first name rfl _ List.mem_cons_self w found
      have all := visits_asked passes within
      rwa [visits] at all
    | _ =>
      simp only [fieldVisits]
      exact behind
termination_by sizeOf items

end

end Asked

end Matching

end PatternDispatch
