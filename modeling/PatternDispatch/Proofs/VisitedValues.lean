import PatternDispatch.Proofs.CanonicalRoundTrip
import PatternDispatch.Proofs.VisitedNodes

/-!
What the visits of a run look at. A property that passes from a value to the elements and entries in
it holds of all values that are visited, if the argument has it and whatever classes and extractors
answer has it too. A pattern without class names and extractors asks none of them.
-/

namespace PatternDispatch

/-- A property of values is kept if it passes to the elements and entries of a value, and to what a
context answers for it where it may be asked. -/
structure Context.Keeps (ctx : Context) (inv : Value → Prop) (asks : Prop) : Prop where
  element : ∀ {v elements}, inv v → v.elements? = some elements → ∀ w ∈ elements, inv w
  entry : ∀ {v entries}, inv v → v.entries? = some entries → ∀ entry ∈ entries, inv entry.2
  positional : asks → ∀ {v name found}, inv v →
    (ctx.positional v name).result = .ok (some found) → inv found
  keyed : asks → ∀ {v found}, inv v → (ctx.keyed v).result = .ok (some found) → inv found
  extracted : asks → ∀ {v name found}, inv v →
    (ctx.extractors.call name v).result = .ok (.pass found) → inv found

theorem Value.mem_of_lookupText {entries : List (Value × Value)} {name : Text} {v : Value}
    (found : lookupText entries name = some v) : ∃ entry ∈ entries, entry.2 = v := by
  obtain ⟨entry, here, same⟩ := Option.map_eq_some_iff.mp found
  exact ⟨entry, List.mem_of_find?_eq_some here, same⟩

section Keeps

variable {ctx : Context} {inv : Value → Prop} {asks : Prop} {v : Value}

theorem Context.Keeps.elements (keeps : ctx.Keeps inv asks) (holds : inv v) :
    ∀ w ∈ v.elements?.getD [], inv w := by
  cases found : v.elements? with
  | none => exact fun _ member => nomatch member
  | some elements => exact keeps.element holds found

theorem Context.Keeps.entries (keeps : ctx.Keeps inv asks) (holds : inv v) :
    ∀ entry ∈ v.entries?.getD [], inv entry.2 := by
  cases found : v.entries? with
  | none => exact fun _ member => nomatch member
  | some entries => exact keeps.entry holds found

end Keeps

namespace Pattern

/-- What nodes with these numbers and of these kinds use: allowed literals only, and no class or
extractor unless they may be asked. -/
structure Uses (allowed : Number → Prop) (asks : Prop) (numbers : List Number)
    (kinds : List String) : Prop where
  literals : ∀ literal ∈ numbers, allowed literal
  classes : "class" ∈ kinds → asks
  extractors : "extractor" ∈ kinds → asks

section Uses

variable {allowed : Number → Prop} {asks : Prop} {numbers more : List Number}
  {kinds others : List String} {p q : Pattern} {items : List Pattern} {name : Text}

theorem Uses.below {kind : String} (uses : Uses allowed asks numbers (kind :: kinds)) :
    Uses allowed asks numbers kinds where
  literals := uses.literals
  classes member := uses.classes (List.mem_cons_of_mem kind member)
  extractors member := uses.extractors (List.mem_cons_of_mem kind member)

theorem Uses.front (uses : Uses allowed asks (numbers ++ more) (kinds ++ others)) :
    Uses allowed asks numbers kinds where
  literals literal member := uses.literals literal (List.mem_append_left more member)
  classes member := uses.classes (List.mem_append_left others member)
  extractors member := uses.extractors (List.mem_append_left others member)

theorem Uses.back (uses : Uses allowed asks (numbers ++ more) (kinds ++ others)) :
    Uses allowed asks more others where
  literals literal member := uses.literals literal (List.mem_append_right numbers member)
  classes member := uses.classes (List.mem_append_right kinds member)
  extractors member := uses.extractors (List.mem_append_right kinds member)

theorem Uses.item (uses : Uses allowed asks (itemNumbers items) (itemKinds items))
    (member : p ∈ items) : Uses allowed asks p.numbers p.kinds := by
  induction member with
  | head => exact uses.front
  | tail _ _ ih => exact ih uses.back

theorem Uses.child (uses : Uses allowed asks p.numbers p.kinds) (member : q ∈ p.children) :
    Uses allowed asks q.numbers q.kinds := by
  cases p with
  | binder _ inner | rest inner | keyValue _ inner | extractorOf _ inner =>
    obtain rfl := List.mem_singleton.mp member
    simp only [numbers, kinds] at uses
    exact uses.below
  | array items | object items | argumentList items =>
    simp only [numbers, kinds] at uses
    exact uses.below.item member
  | tagArray _ items | tagObject _ items =>
    obtain rfl := List.mem_singleton.mp member
    simp only [numbers, kinds] at uses ⊢
    exact uses.below
  | _ => cases member

theorem Uses.node (uses : Uses allowed asks p.numbers p.kinds) (occurs : p.Occurs q) :
    Uses allowed asks q.numbers q.kinds := by
  induction occurs with
  | root => exact uses
  | child member _ ih => exact ih (uses.child member)

theorem Uses.mayAskClass (uses : Uses allowed asks p.numbers p.kinds)
    (named : p.className? = some name) : asks := by
  apply uses.classes
  cases p with
  | tag | tagArray | tagObject => simp [kinds, kind]
  | _ => cases named

theorem Uses.mayAskExtractor (uses : Uses allowed asks p.numbers p.kinds)
    (named : p.extractorName? = some name) : asks := by
  apply uses.extractors
  cases p with
  | extractor | extractorOf => simp [kinds, kind]
  | _ => cases named

end Uses

end Pattern

namespace Matching

open Pattern (Uses)

/-- What is known of a visit: its value has a property, its literal is an allowed one, and it asks a
class or an extractor only if that may happen. -/
def Visit.Within (inv : Value → Prop) (allowed : Number → Prop) (asks : Prop) : Visit → Prop
  | test _ => True
  | comparison v literal => inv v ∧ allowed literal
  | sequence _ v | mapping _ v => inv v
  | className _ v | components _ v | entries v | extractor _ v => asks ∧ inv v

/-- What is known of all visits in a list. -/
def AllWithin (inv : Value → Prop) (allowed : Number → Prop) (asks : Prop)
    (visits : List Visit) : Prop := ∀ visit ∈ visits, visit.Within inv allowed asks

section Within

variable {ctx : Context} {inv : Value → Prop} {allowed : Number → Prop} {asks : Prop}
  {p q : Pattern} {v w : Value}

/-- What holds of the value of a node holds of the values of all that the node leads to. -/
theorem Leads.within (leads : Leads ctx p v q w) (keeps : ctx.Keeps inv asks)
    (uses : Uses allowed asks p.numbers p.kinds) (holds : inv v) : inv w := by
  cases leads with
  | named => exact holds
  | element _ inside | argument _ inside => exact keeps.elements holds w inside
  | field _ _ _ found =>
    obtain ⟨entry, member, rfl⟩ := Value.mem_of_lookupText found
    exact keeps.entries holds entry member
  | positional answered => exact keeps.positional (uses.mayAskClass rfl) holds answered
  | keyed answered => exact keeps.keyed (uses.mayAskClass rfl) holds answered
  | extracted answered => exact keeps.extracted (uses.mayAskExtractor rfl) holds answered

theorem Asks.within {visit : Visit} (asked : Asks p v visit)
    (uses : Uses allowed asks p.numbers p.kinds) (holds : inv v) :
    visit.Within inv allowed asks := by
  cases asked with
  | test => trivial
  | comparison => exact ⟨holds, uses.literals _ (by simp [Pattern.numbers])⟩
  | sequence | arguments | mapping => exact holds
  | className named => exact ⟨uses.mayAskClass named, holds⟩
  | components | entries => exact ⟨uses.mayAskClass rfl, holds⟩
  | extractor named => exact ⟨uses.mayAskExtractor named, holds⟩

/-- What holds of a value holds of all that a pattern visits in it. -/
theorem visits_within (keeps : ctx.Keeps inv asks)
    (uses : Uses allowed asks p.numbers p.kinds) (holds : inv v) :
    AllWithin inv allowed asks (visits ctx p v) := by
  intro visit member
  have asked : AskedFrom (fun q w => Uses allowed asks q.numbers q.kinds ∧ inv w)
      (visits ctx p v) :=
    visits_asked (fun known leads =>
      ⟨known.1.node leads.occurs, leads.within keeps known.1 known.2⟩) ⟨uses, holds⟩
  obtain ⟨q, w, ⟨used, kept⟩, here⟩ := asked visit member
  exact here.within used kept

end Within

end Matching

end PatternDispatch
