import PatternDispatch.Proofs.ArrayFreeValues
import PatternDispatch.Proofs.ReadableProcedure
import PatternDispatch.Proofs.RespelledRun

/-!
Running a text and its canonical spelling. The two trees differ in how equal numbers are written,
and only an array can tell. The comparisons of a run are among its visits, so a run that begins
without arrays, where no class and no extractor makes one, compares none.
-/

namespace PatternDispatch

namespace Matching

/-! ## Comparisons are visits -/

section Parts

variable {c : Comparison} {items : List Pattern} {v : Value}

theorem mem_behind {α : Type} {first : Traced (Option α)} {compared : List Comparison}
    (member : c ∈ behind first compared) : c ∈ compared := by
  unfold behind at member
  split at member
  · exact member
  · cases member

theorem mem_comparedEach {run : Value → Traced Match} {compared : Value → List Comparison}
    {elements : List Value} (member : c ∈ comparedEach run compared elements) :
    ∃ w ∈ elements, c ∈ compared w := by
  induction elements with
  | nil => cases member
  | cons element elements ih =>
    rw [comparedEach] at member
    rcases List.mem_append.mp member with own | later
    · exact ⟨element, List.mem_cons_self, own⟩
    · obtain ⟨w, inside, here⟩ := ih (mem_behind later)
      exact ⟨w, List.mem_cons_of_mem element inside, here⟩

theorem mem_comparedElements {next : List Value → List Comparison}
    (member : c ∈ comparedElements items v next) : c ∈ next (v.elements?.getD []) := by
  unfold comparedElements at member
  split at member
  · cases member
  · next elements found =>
    rw [found]
    split at member
    · exact member
    · cases member

theorem mem_comparedEntries {next : List (Value × Value) → List Comparison}
    (member : c ∈ comparedEntries items v next) : c ∈ next (v.entries?.getD []) := by
  unfold comparedEntries at member
  split at member
  · cases member
  · next entries found =>
    rw [found]
    split at member
    · exact member
    · cases member

theorem mem_comparedComponents {holds : Bool} {components : Traced (Option Value)}
    {next : Value → List Comparison} (member : c ∈ comparedComponents holds components next) :
    ∃ found, components.result = .ok (some found) ∧ c ∈ next found := by
  unfold comparedComponents at member
  split at member
  · split at member
    · next found answered => exact ⟨found, answered, member⟩
    · cases member
  · cases member

theorem mem_comparedExtracted {result : Traced Value} {next : Value → List Comparison}
    (member : c ∈ comparedExtracted result next) :
    ∃ extracted, result.result = .ok (.pass extracted) ∧ c ∈ next extracted := by
  unfold comparedExtracted at member
  split at member
  · next extracted answered => exact ⟨extracted, answered, member⟩
  · cases member

theorem mem_comparedEntry {entries : List (Value × Value)} {name : Text}
    {next : Value → List Comparison} {visited : Value → List Visit}
    (member : c ∈ comparedEntry entries name next)
    (each : ∀ w, c ∈ next w → Visit.comparison c.1 c.2 ∈ visited w) :
    Visit.comparison c.1 c.2 ∈ (Value.lookupText entries name).elim [] visited := by
  unfold comparedEntry at member
  split at member
  · cases member
  · next w found =>
    rw [found]
    exact each w member

end Parts

mutual

/-- Whatever a run compares is one of its visits. -/
theorem compared_visited {ctx : Context} {p : Pattern} {v : Value} {c : Comparison}
    (member : c ∈ compared ctx p v) : Visit.comparison c.1 c.2 ∈ visits ctx p v := by
  cases p with
  | number literal =>
    rw [compared] at member
    obtain rfl := List.mem_singleton.mp member
    exact List.mem_cons_self
  | binder name inner =>
    rw [compared] at member
    rw [visits]
    exact compared_visited member
  | array items | argumentList items =>
    rw [compared] at member
    rw [visits]
    exact List.mem_cons_of_mem _ (comparedItems_visited (mem_comparedElements member))
  | object items =>
    rw [compared] at member
    rw [visits]
    exact List.mem_cons_of_mem _ (comparedFields_visited (mem_comparedEntries member))
  | tagArray name items =>
    rw [compared] at member
    obtain ⟨found, answered, below⟩ := mem_comparedComponents member
    rw [visits, answered]
    have inside := comparedItems_visited (mem_comparedElements below)
    exact List.mem_cons_of_mem _ (List.mem_cons_of_mem _ (List.mem_cons_of_mem _ inside))
  | tagObject name items =>
    rw [compared] at member
    obtain ⟨found, answered, below⟩ := mem_comparedComponents member
    rw [visits, answered]
    have inside := comparedFields_visited (mem_comparedEntries below)
    exact List.mem_cons_of_mem _ (List.mem_cons_of_mem _ (List.mem_cons_of_mem _ inside))
  | extractorOf name inner =>
    rw [compared] at member
    obtain ⟨extracted, answered, below⟩ := mem_comparedExtracted member
    rw [visits, answered]
    exact List.mem_cons_of_mem _ (compared_visited below)
  | _ =>
    simp only [compared] at member
    cases member
termination_by sizeOf p

theorem comparedItems_visited {ctx : Context} {items : List Pattern} {elements : List Value}
    {c : Comparison} (member : c ∈ comparedItems ctx items elements) :
    Visit.comparison c.1 c.2 ∈ itemVisits ctx items elements := by
  match items with
  | [] =>
    rw [comparedItems] at member
    cases member
  | item :: items =>
    cases isRest : item.isRest with
    | true =>
      obtain ⟨inner, rfl⟩ := Pattern.exists_rest isRest
      rw [comparedItems] at member
      rw [itemVisits]
      rcases List.mem_append.mp member with own | later
      · obtain ⟨w, inside, here⟩ := mem_comparedEach own
        exact List.mem_append_left _ (List.mem_flatMap.mpr ⟨w, inside, compared_visited here⟩)
      · exact List.mem_append_right _ (comparedItems_visited (mem_behind later))
    | false =>
      cases elements with
      | nil =>
        cases item <;> first | (simp only [comparedItems] at member; cases member) | cases isRest
      | cons element elements =>
        rw [comparedItems_item isRest] at member
        rw [itemVisits_item isRest]
        rcases List.mem_append.mp member with own | later
        · exact List.mem_append_left _ (compared_visited own)
        · exact List.mem_append_right _ (comparedItems_visited (mem_behind later))
termination_by sizeOf items

theorem comparedFields_visited {ctx : Context} {items : List Pattern}
    {entries : List (Value × Value)} {c : Comparison}
    (member : c ∈ comparedFields ctx items entries) :
    Visit.comparison c.1 c.2 ∈ fieldVisits ctx items entries := by
  match items with
  | [] =>
    rw [comparedFields] at member
    cases member
  | item :: items =>
    have skip (member : c ∈ comparedFields ctx items entries) :
        Visit.comparison c.1 c.2 ∈ fieldVisits ctx items entries := comparedFields_visited member
    cases item with
    | keyValue name inner | binder name inner | extractorOf name inner =>
      rw [comparedFields] at member
      rw [fieldVisits]
      rcases List.mem_append.mp member with own | later
      · exact List.mem_append_left _ (mem_comparedEntry own fun w here => compared_visited here)
      · exact List.mem_append_right _ (skip (mem_behind later))
    | tagArray name inner =>
      rw [comparedFields] at member
      rw [fieldVisits]
      rcases List.mem_append.mp member with own | later
      · refine List.mem_append_left _ (mem_comparedEntry own fun w here => ?_)
        exact List.mem_cons_of_mem _ (comparedItems_visited (mem_comparedElements here))
      · exact List.mem_append_right _ (skip (mem_behind later))
    | tagObject name inner =>
      rw [comparedFields] at member
      rw [fieldVisits]
      rcases List.mem_append.mp member with own | later
      · refine List.mem_append_left _ (mem_comparedEntry own fun w here => ?_)
        exact List.mem_cons_of_mem _ (comparedFields_visited (mem_comparedEntries here))
      · exact List.mem_append_right _ (skip (mem_behind later))
    | key name =>
      rw [comparedFields] at member
      simp only [fieldVisits]
      exact skip (mem_behind member)
    | _ =>
      simp only [comparedFields] at member
      simp only [fieldVisits]
      exact skip member
termination_by sizeOf items

end

/-! ## Runs without arrays -/

variable {ctx : Context} {v : Value}

theorem scalarCells?_of_arrayFree (free : v.ArrayFree) : v.scalarCells? = none := by
  have under := free.underlying
  unfold Value.scalarCells?
  split
  · next cells base => exact absurd base (under.not_array cells)
  · rfl

/-- A run that begins without arrays tells no spellings of a literal apart. -/
theorem steady_of_arrayFree (ctxFree : ctx.ArrayFree) (p : Pattern) (free : v.ArrayFree) :
    Steady (compared ctx p v) := by
  intro c member sensitive
  have uses : Pattern.Uses (fun _ => True) True p.numbers p.kinds :=
    ⟨fun _ _ => trivial, fun _ => trivial, fun _ => trivial⟩
  have within := visits_within ctxFree.keeps uses free _ (compared_visited member)
  obtain ⟨n, x, cells, -, -, scalar, -⟩ := Value.isSensitive_iff.mp sensitive
  rw [scalarCells?_of_arrayFree within.1] at scalar
  cases scalar

end Matching

namespace Pattern.Parser

/-- A text that can be read has a canonical spelling, which compiles as the text does. Where no
value is an array and none is made, the two procedures do the same on all arguments: they make the
same calls, and end in the same captures, in a mismatch or in the same failure. -/
theorem reparsed_runs_alike {text : Text} {tree : Pattern} (read : parse text = .ok tree) :
    ∃ spelling own again, canonicalize text = .ok spelling ∧ Procedure.ofText text = .ok own ∧
      Procedure.ofText spelling = .ok again ∧
      ∀ (ctx : Context) (arguments : List Value), ctx.ArrayFree →
        (∀ v ∈ arguments, v.ArrayFree) → again.run ctx arguments = own.run ctx arguments := by
  have readAgain := Grammar.parse_canonical read
  obtain ⟨own, ofText, compiles⟩ := Procedure.exists_ofText read
  obtain ⟨again, ofSpelling, compilesAgain⟩ := Procedure.exists_ofText readAgain
  refine ⟨tree.canonical, own, again, by rw [canonicalize, read]; rfl, ofText, ofSpelling, ?_⟩
  intro ctx arguments ctxFree free
  have respelled : Respelled tree tree.normalized :=
    Grammar.normalized_eq_of_canonical read readAgain (normalized_canonical tree).symm
  have argumentsFree : (Value.tuple arguments).ArrayFree := .intro rfl free
  have steady := Matching.steady_of_arrayFree ctxFree tree argumentsFree
  rw [Procedure.run_ofTree readAgain compilesAgain, Procedure.run_ofTree read compiles]
  exact Matching.run_respelled _ respelled steady

/-- Also below an extractor, which wraps what it is given, and a sum type, whose variant is a
declared class, a float without a fraction runs as the integer that it is spelled as. -/
theorem reparsed_runs_alike_integral :
    let dot := Text.ofString "Dot"
    let classes := ClassTable.declare .empty
      { name := dot, base? := none, layout? := none, isData := true
        fields := [Text.ofString "x"], secondName := none, matchArgs := none
        omitsMatchArgs := false, isCallable := false, positionalHook := none, keyedHook := none
        asFields := none }
    let types : Variants := ⟨[(Text.ofString "S", [dot]), (dot, [dot])]⟩
    let wrap : Extractor := ⟨Text.ofString "wrap", fun v => .ok (.pass v)⟩
    let ctx : Context := ⟨classes, ⟨[(Text.ofString "f", wrap)]⟩, some (types.sumTypes classes)⟩
    ∃ own again, Procedure.ofText (Text.ofString "$f(S(5.0))") = .ok own ∧
      Procedure.ofText (Text.ofString "$f(S(5))") = .ok again ∧
      ∀ n, let v : Value := .record dot [(Text.ofString "x", .int n)]
        again.run ctx [v] = own.run ctx [v] := by
  intro dot classes types wrap ctx
  have spelled : canonicalize (Text.ofString "$f(S(5.0))") = .ok (Text.ofString "$f(S(5))") := by
    decide +kernel
  obtain ⟨tree, read, -⟩ := exists_of_map_ok spelled
  obtain ⟨spelling, own, again, canonical, ofText, ofSpelling, alike⟩ := reparsed_runs_alike read
  obtain rfl : Text.ofString "$f(S(5))" = spelling := Except.ok.inj (spelled.symm.trans canonical)
  have shares : ∀ entry ∈ classes.entries, entry.2.SharesNone :=
    ClassTable.declare_sharesNone fun _ member => absurd member List.not_mem_nil
  have noHooks : classes.entries.all (fun entry => entry.2.hooks.isEmpty) = true := rfl
  have classesFree : classes.ArrayFree := by
    intro name c found
    have member := Table.mem_of_find? found
    have none : c.hooks = [] := List.isEmpty_iff.mp (List.all_eq_true.mp noHooks _ member)
    refine ⟨shares _ member, fun hook inside => ?_⟩
    rw [none] at inside
    cases inside
  have extractorsFree : ∀ name extractor, ctx.extractors.find? name = some extractor →
      ∀ v w : Value, v.ArrayFree → extractor.run v = .ok w → w.ArrayFree := by
    intro name extractor found v w free answered
    obtain ⟨-, rfl⟩ := Prod.mk.inj (List.mem_singleton.mp (Table.mem_of_find? found))
    cases answered
    exact .intro rfl (List.forall_mem_singleton.mpr free)
  have uses : ctx.UsesTable (some types) := rfl
  have ctxFree : ctx.ArrayFree := Context.arrayFree_of_table uses classesFree extractorsFree
  refine ⟨own, again, ofText, ofSpelling, fun n => alike ctx _ ctxFree ?_⟩
  refine List.forall_mem_singleton.mpr (.intro rfl (List.forall_mem_singleton.mpr ?_))
  exact .leaf rfl rfl

end Pattern.Parser

end PatternDispatch
