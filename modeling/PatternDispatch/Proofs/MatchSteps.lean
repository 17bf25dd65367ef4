import Mathlib.Data.List.Forall2
import PatternDispatch.Matching

/-!
The steps of a match. Each step that answers captures says which parts have matched before, and a
step whose parts go the same way goes the same way itself. A step fails only where a part of it
does.
-/

namespace PatternDispatch

namespace Matching

/-- A pattern matches a value with these captures. -/
def Matches (ctx : Context) (p : Pattern) (v : Value) (captures : List Value) : Prop :=
  (run ctx p v).result = .ok (some captures)

section Binds

variable {α β : Type} {first : Traced (Option α)} {next : Option α → Traced (Option β)}

/-- Where nothing leads to nothing, something is answered only behind a step that finds something,
and what comes next answers it. -/
theorem bind_some_iff {answer : β} (stops : (next none).result = .ok none) :
    (first >>= next).result = .ok (some answer) ↔
      ∃ found, first.result = .ok (some found) ∧
        (next (some found)).result = .ok (some answer) := by
  rw [Traced.result_bind]
  constructor
  · intro answered
    split at answered
    · cases answered
    · next found ran =>
      cases found with
      | none => cases stops.symm.trans answered
      | some found => exact ⟨found, ran, answered⟩
  · rintro ⟨found, ran, answered⟩
    rw [ran]
    exact answered

theorem bind_error {failure : Failure} (stops : (next none).result = .ok none)
    (failed : (first >>= next).result = .error failure) :
    first.result = .error failure ∨
      ∃ found, first.result = .ok (some found) ∧ (next (some found)).result = .error failure := by
  rw [Traced.result_bind] at failed
  split at failed
  · next raised =>
    cases failed
    exact .inl raised
  · next found ran =>
    cases found with
    | none => cases stops.symm.trans failed
    | some found => exact .inr ⟨found, ran, failed⟩

end Binds

section Steps

variable {captures : List Value}

theorem test_some {holds : Bool} (matched : (test holds).result = .ok (some captures)) :
    captures = [] := by
  cases holds with
  | false => cases matched
  | true => cases matched; rfl

theorem both_some_iff {first : Traced Match} {second : Unit → Traced Match} :
    (both first second).result = .ok (some captures) ↔
      ∃ own others, first.result = .ok (some own) ∧ (second ()).result = .ok (some others) ∧
        captures = own ++ others := by
  unfold both
  rw [bind_some_iff rfl]
  constructor
  · rintro ⟨own, one, joined⟩
    obtain ⟨others, two, joined⟩ := (bind_some_iff rfl).mp joined
    cases joined
    exact ⟨own, others, one, two, rfl⟩
  · rintro ⟨own, others, one, two, rfl⟩
    exact ⟨own, one, (bind_some_iff rfl).mpr ⟨others, two, rfl⟩⟩

theorem overElements_some_iff {items : List Pattern} {v : Value}
    {next : List Value → Traced Match} :
    (overElements items v next).result = .ok (some captures) ↔
      ∃ elements, v.elements? = some elements ∧ lengthFits items elements.length = true ∧
        (next elements).result = .ok (some captures) := by
  unfold overElements
  constructor
  · intro matched
    split at matched
    · cases matched
    · next elements found =>
      split at matched
      · next fits => exact ⟨elements, found, fits, matched⟩
      · cases matched
  · rintro ⟨elements, found, fits, ran⟩
    rw [found]
    simp only [fits, if_true]
    exact ran

theorem overEntries_some_iff {items : List Pattern} {v : Value}
    {next : List (Value × Value) → Traced Match} :
    (overEntries items v next).result = .ok (some captures) ↔
      ∃ entries, v.entries? = some entries ∧ keysFit items entries = true ∧
        (next entries).result = .ok (some captures) := by
  unfold overEntries
  constructor
  · intro matched
    split at matched
    · cases matched
    · next entries found =>
      split at matched
      · next fits => exact ⟨entries, found, fits, matched⟩
      · cases matched
  · rintro ⟨entries, found, fits, ran⟩
    rw [found]
    simp only [fits, if_true]
    exact ran

theorem overComponents_some_iff {holds : Bool} {components : Traced (Option Value)}
    {next : Value → Traced Match} :
    (overComponents holds components next).result = .ok (some captures) ↔
      holds = true ∧ ∃ found, components.result = .ok (some found) ∧
        (next found).result = .ok (some captures) := by
  unfold overComponents
  cases holds with
  | true =>
    rw [if_pos rfl, bind_some_iff rfl]
    exact (and_iff_right rfl).symm
  | false =>
    constructor
    · intro matched
      cases matched
    · rintro ⟨no, -⟩
      cases no

theorem overExtracted_some {result : Traced Value} {next : Value → Traced Match}
    (matched : (overExtracted result next).result = .ok (some captures)) :
    ∃ extracted, result.result = .ok (.pass extracted) ∧
      (next extracted).result = .ok (some captures) := by
  unfold overExtracted at matched
  rw [Traced.result_bind] at matched
  split at matched
  · cases matched
  · next answer called =>
    cases answer with
    | pass extracted => exact ⟨extracted, called, matched⟩
    | _ => cases matched

theorem overEntry_some_iff {entries : List (Value × Value)} {name : Text}
    {next : Value → Traced Match} :
    (overEntry entries name next).result = .ok (some captures) ↔
      ∃ value, Value.lookupText entries name = some value ∧
        (next value).result = .ok (some captures) := by
  unfold overEntry
  constructor
  · intro matched
    split at matched
    · cases matched
    · next value found => exact ⟨value, found, matched⟩
  · rintro ⟨value, found, ran⟩
    rw [found]
    exact ran

theorem literalTest_some {v : Value} {literal : Number}
    (matched : (literalTest v literal).result = .ok (some captures)) : captures = [] := by
  unfold literalTest at matched
  split at matched
  · exact test_some matched
  · cases matched

/-- A span matches exactly if every element of it does, and the answer has one row for each. -/
theorem each_some_iff {run : Value → Traced Match} {elements : List Value}
    {rows : List (List Value)} :
    (each run elements).result = .ok (some rows) ↔
      List.Forall₂ (fun element row => (run element).result = .ok (some row)) elements rows := by
  induction elements generalizing rows with
  | nil =>
    constructor
    · intro matched
      cases matched
      exact .nil
    · intro all
      cases all
      rfl
  | cons element elements ih =>
    unfold each
    rw [bind_some_iff rfl]
    constructor
    · rintro ⟨row, one, joined⟩
      obtain ⟨others, later, joined⟩ := (bind_some_iff rfl).mp joined
      cases joined
      exact .cons one (ih.mp later)
    · intro all
      cases all with
      | cons one later => exact ⟨_, one, (bind_some_iff rfl).mpr ⟨_, ih.mpr later, rfl⟩⟩

theorem collected_some_iff {count : Nat} {rows : Traced (Option (List (List Value)))} :
    (collected count rows).result = .ok (some captures) ↔
      ∃ found, rows.result = .ok (some found) ∧ captures = slotLists count found := by
  unfold collected
  rw [bind_some_iff rfl]
  constructor
  · rintro ⟨found, ran, listed⟩
    cases listed
    exact ⟨found, ran, rfl⟩
  · rintro ⟨found, ran, rfl⟩
    exact ⟨found, ran, rfl⟩

/-- Where every element matches, the whole span does. -/
theorem each_total {run : Value → Traced Match} (elements : List Value)
    (total : ∀ element, ∃ captures, (run element).result = .ok (some captures)) :
    ∃ rows, (each run elements).result = .ok (some rows) := by
  induction elements with
  | nil => exact ⟨[], rfl⟩
  | cons element elements ih =>
    obtain ⟨captures, one⟩ := total element
    obtain ⟨rows, later⟩ := ih
    refine ⟨captures :: rows, ?_⟩
    unfold each
    simp only [Traced.result_bind, one, later]
    rfl

/-- What the rest of a sequence holds matches every element of the span. -/
theorem each_of_restCaptured {ctx : Context} {inner : Pattern} {span : Value}
    {elements : List Value}
    (matched : (restCaptured inner span fun _ => each (run ctx inner) elements).result =
      .ok (some captures)) :
    ∃ rows, (each (run ctx inner) elements).result = .ok (some rows) := by
  cases inner with
  | wildcard => exact each_total elements fun _ => ⟨[], rfl⟩
  | identifier name => exact each_total elements fun element => ⟨[element], rfl⟩
  | _ =>
    obtain ⟨rows, answered, -⟩ := collected_some_iff.mp matched
    exact ⟨rows, answered⟩

theorem both_congr {first one : Traced Match} {second two : Unit → Traced Match}
    (same : one = first)
    (later : ∀ captures, first.result = .ok (some captures) → two () = second ()) :
    both one two = both first second := by
  subst same
  unfold both
  apply Traced.bind_congr
  intro found ran
  cases found with
  | none => rfl
  | some captures => simp only [later captures ran]

/-- Nothing is added behind a part by what captures nothing. -/
theorem both_captured_nil (first : Traced Match) : (both first fun _ => captured []) = first := by
  unfold both
  conv_rhs => rw [← bind_pure first]
  apply Traced.bind_congr
  intro found _
  cases found with
  | none => rfl
  | some captures => exact congrArg captured (List.append_nil captures)

/-- One argument is matched by an argument list of one pattern as by the pattern. -/
theorem run_single {ctx : Context} {p : Pattern} (notRest : p.isRest = false) (v : Value) :
    run ctx (.argumentList [p]) (.tuple [v]) = run ctx p v := by
  have fits : lengthFits [p] 1 = true := by
    simp [lengthFits, hasRest, notRest]
  rw [run]
  change (if lengthFits [p] 1 = true then runItems ctx [p] (.tuple [v]) 0 [v] else mismatch) = _
  rw [if_pos fits, runItems_item notRest, runItems, both_captured_nil]

end Steps

/-! ## Failures -/

section Failures

variable {failure : Failure}

theorem both_error {first : Traced Match} {second : Unit → Traced Match}
    (failed : (both first second).result = .error failure) :
    first.result = .error failure ∨ (second ()).result = .error failure := by
  rcases bind_error rfl failed with one | ⟨own, -, failed⟩
  · exact .inl one
  rcases bind_error rfl failed with two | ⟨others, -, failed⟩
  · exact .inr two
  · cases failed

theorem overComponents_error {holds : Bool} {components : Traced (Option Value)}
    {next : Value → Traced Match}
    (failed : (overComponents holds components next).result = .error failure) :
    holds = true ∧ (components.result = .error failure ∨
      ∃ found, components.result = .ok (some found) ∧ (next found).result = .error failure) := by
  unfold overComponents at failed
  split at failed
  · next isInstance => exact ⟨isInstance, bind_error rfl failed⟩
  · cases failed

theorem each_error {run : Value → Traced Match} {elements : List Value}
    (failed : (each run elements).result = .error failure) :
    ∃ element ∈ elements, (run element).result = .error failure := by
  induction elements with
  | nil => cases failed
  | cons element elements ih =>
    rcases bind_error rfl failed with one | ⟨row, -, failed⟩
    · exact ⟨element, List.mem_cons_self, one⟩
    rcases bind_error rfl failed with later | ⟨others, -, failed⟩
    · obtain ⟨other, member, raised⟩ := ih later
      exact ⟨other, List.mem_cons_of_mem element member, raised⟩
    · cases failed

theorem restCaptured_structured {inner : Pattern} {part : Value}
    {rows : Unit → Traced (Option (List (List Value)))}
    (filled : inner ≠ .wildcard) (unnamed : ∀ name, inner ≠ .identifier name) :
    restCaptured inner part rows = collected inner.captureCount (rows ()) := by
  cases inner with
  | wildcard => exact absurd rfl filled
  | identifier name => exact absurd rfl (unnamed name)
  | _ => rfl

/-- A rest fails only where its pattern does on an element of the span. -/
theorem restCaptured_error {ctx : Context} {inner : Pattern} {part : Value}
    {elements : List Value}
    (failed : (restCaptured inner part fun _ => each (run ctx inner) elements).result =
      .error failure) :
    ∃ element ∈ elements, (run ctx inner element).result = .error failure := by
  by_cases wild : inner = .wildcard
  · subst wild
    cases failed
  by_cases named : ∃ name, inner = .identifier name
  · obtain ⟨name, rfl⟩ := named
    cases failed
  rw [restCaptured_structured wild fun name same => named ⟨name, same⟩] at failed
  rcases bind_error rfl failed with raised | ⟨rows, -, failed⟩
  · exact each_error raised
  · cases failed

end Failures

end Matching

end PatternDispatch
