import PatternDispatch.Procedure
import PatternDispatch.Proofs.CanonicalRoundTrip
import PatternDispatch.Proofs.LiteralComparison
import PatternDispatch.Proofs.MatchSteps

/-!
Runs of two trees that share a spelling. Such trees differ in their number literals only, and a run
comes to a literal through comparisons; it goes the same way in both as long as none of these tells
two spellings of the literal apart.
-/

namespace PatternDispatch

namespace Matching

/-! ## The comparisons of a run -/

/-- A value and the literal that it is compared with. -/
abbrev Comparison := Value × Number

/-- What is compared behind a part, which is nothing unless the part matches. -/
def behind {α : Type} (first : Traced (Option α)) (compared : List Comparison) : List Comparison :=
  match first.result with
  | .ok (some _) => compared
  | _ => []

def comparedEach (run : Value → Traced Match) (compared : Value → List Comparison) :
    List Value → List Comparison
  | [] => []
  | element :: elements =>
    compared element ++ behind (run element) (comparedEach run compared elements)

def comparedElements (items : List Pattern) (v : Value) (next : List Value → List Comparison) :
    List Comparison :=
  match v.elements? with
  | none => []
  | some elements => if lengthFits items elements.length then next elements else []

def comparedEntries (items : List Pattern) (v : Value)
    (next : List (Value × Value) → List Comparison) : List Comparison :=
  match v.entries? with
  | none => []
  | some entries => if keysFit items entries then next entries else []

def comparedComponents (holds : Bool) (components : Traced (Option Value))
    (next : Value → List Comparison) : List Comparison :=
  if holds then
    match components.result with
    | .ok (some found) => next found
    | _ => []
  else []

def comparedExtracted (result : Traced Value) (next : Value → List Comparison) :
    List Comparison :=
  match result.result with
  | .ok (.pass extracted) => next extracted
  | _ => []

def comparedEntry (entries : List (Value × Value)) (name : Text)
    (next : Value → List Comparison) : List Comparison :=
  match Value.lookupText entries name with
  | none => []
  | some value => next value

mutual

/-- The comparisons that a run of a pattern on a value makes, in order. -/
def compared (ctx : Context) : Pattern → Value → List Comparison
  | .number literal, v => [(v, literal)]
  | .binder _ inner, v => compared ctx inner v
  | .array items, v | .argumentList items, v => comparedElements items v (comparedItems ctx items)
  | .object items, v => comparedEntries items v (comparedFields ctx items)
  | .tagArray name items, v =>
    comparedComponents (ctx.typeMatches v name) (ctx.positional v name) fun components =>
      comparedElements items components (comparedItems ctx items)
  | .tagObject name items, v =>
    comparedComponents (ctx.typeMatches v name) (ctx.keyed v) fun components =>
      comparedEntries items components (comparedFields ctx items)
  | .extractorOf name inner, v =>
    comparedExtracted (ctx.extractors.call name v) (compared ctx inner)
  | _, _ => []

def comparedItems (ctx : Context) : List Pattern → List Value → List Comparison
  | [], _ => []
  | .rest inner :: items, elements =>
    let span := elements.take (elements.length - items.length)
    comparedEach (run ctx inner) (compared ctx inner) span ++
      behind (each (run ctx inner) span)
        (comparedItems ctx items (elements.drop (elements.length - items.length)))
  | item :: items, element :: elements =>
    compared ctx item element ++ behind (run ctx item element) (comparedItems ctx items elements)
  | _ :: _, [] => []

def comparedFields (ctx : Context) : List Pattern → List (Value × Value) → List Comparison
  | [], _ => []
  | .key name :: items, entries =>
    behind (overEntry entries name fun value => captured [value]) (comparedFields ctx items entries)
  | .keyValue name inner :: items, entries | .binder name inner :: items, entries
  | .extractorOf name inner :: items, entries =>
    comparedEntry entries name (compared ctx inner) ++
      behind (overEntry entries name (run ctx inner)) (comparedFields ctx items entries)
  | .tagArray name inner :: items, entries =>
    comparedEntry entries name (fun v => comparedElements inner v (comparedItems ctx inner)) ++
      behind (overEntry entries name fun v => overElements inner v (runItems ctx inner v 0))
        (comparedFields ctx items entries)
  | .tagObject name inner :: items, entries =>
    comparedEntry entries name (fun v => comparedEntries inner v (comparedFields ctx inner)) ++
      behind (overEntry entries name fun v =>
          overEntries inner v (runFields ctx (declaredNames inner) inner))
        (comparedFields ctx items entries)
  | _ :: items, entries => comparedFields ctx items entries

end

/-- No comparison tells two spellings of its literal apart. -/
def Steady (comparisons : List Comparison) : Prop := ∀ c ∈ comparisons, ¬c.1.IsSensitive c.2

theorem steady_append {first others : List Comparison} :
    Steady (first ++ others) ↔ Steady first ∧ Steady others := by
  unfold Steady
  rw [List.forall_mem_append]

theorem Steady.behind {α : Type} {first : Traced (Option α)} {comparisons : List Comparison}
    {found : α} (steady : Steady (behind first comparisons))
    (matched : first.result = .ok (some found)) : Steady comparisons := by
  unfold Matching.behind at steady
  rwa [matched] at steady

end Matching

/-! ## Trees that share a spelling -/

namespace Pattern

open Matching (hasRest fieldName? declaredNames)

mutual

theorem captureCount_mapNumbers (f : Number → Number) (p : Pattern) :
    (p.mapNumbers f).captureCount = p.captureCount := by
  cases p with
  | binder name inner | rest inner | keyValue name inner | extractorOf name inner =>
    simp only [mapNumbers, captureCount, captureCount_mapNumbers f inner]
  | array items | object items | argumentList items | tagArray name items | tagObject name items =>
    simp only [mapNumbers, captureCount, itemCaptureCount_mapItemNumbers f items]
  | _ => simp only [mapNumbers, captureCount]

theorem itemCaptureCount_mapItemNumbers (f : Number → Number) (items : List Pattern) :
    itemCaptureCount (mapItemNumbers f items) = itemCaptureCount items := by
  match items with
  | [] => rfl
  | item :: items =>
    simp only [mapItemNumbers, itemCaptureCount, captureCount_mapNumbers f item,
      itemCaptureCount_mapItemNumbers f items]

end

theorem hasRest_mapItemNumbers (f : Number → Number) (items : List Pattern) :
    hasRest (mapItemNumbers f items) = hasRest items := by
  rw [mapItemNumbers_eq, hasRest, hasRest, List.any_map]
  congr 1
  funext item
  exact isRest_mapNumbers f item

theorem declaredNames_mapItemNumbers (f : Number → Number) (items : List Pattern) :
    declaredNames (mapItemNumbers f items) = declaredNames items := by
  rw [mapItemNumbers_eq, declaredNames, declaredNames, List.filterMap_map]
  congr 1
  funext item
  cases item <;> simp only [Function.comp_apply, mapNumbers, fieldName?]

/-- Trees that have one spelling: they differ in how equal numbers are represented. -/
def Respelled (p q : Pattern) : Prop := p.normalized = q.normalized

/-- Items that are respelled one by one. -/
def ItemsRespelled (items others : List Pattern) : Prop :=
  mapItemNumbers Number.normalized items = mapItemNumbers Number.normalized others

section Respelled

variable {items others : List Pattern}

theorem ItemsRespelled.length_eq (same : ItemsRespelled items others) :
    others.length = items.length := by
  have lengths := congrArg List.length same
  rw [mapItemNumbers_eq, mapItemNumbers_eq, List.length_map, List.length_map] at lengths
  exact lengths.symm

theorem ItemsRespelled.hasRest_eq (same : ItemsRespelled items others) :
    hasRest others = hasRest items := by
  rw [← hasRest_mapItemNumbers Number.normalized others, ← same, hasRest_mapItemNumbers]

theorem ItemsRespelled.declaredNames_eq (same : ItemsRespelled items others) :
    declaredNames others = declaredNames items := by
  rw [← declaredNames_mapItemNumbers Number.normalized others, ← same,
    declaredNames_mapItemNumbers]

theorem Respelled.captureCount_eq {p q : Pattern} (same : Respelled p q) :
    q.captureCount = p.captureCount := by
  rw [← captureCount_mapNumbers Number.normalized q, ← captureCount_mapNumbers Number.normalized p]
  exact congrArg captureCount same.symm

theorem Respelled.isRest_eq {p q : Pattern} (same : Respelled p q) : q.isRest = p.isRest := by
  rw [← isRest_mapNumbers Number.normalized q, ← isRest_mapNumbers Number.normalized p]
  exact congrArg isRest same.symm

theorem ItemsRespelled.cons {item : Pattern} (same : ItemsRespelled (item :: items) others) :
    ∃ other rest, others = other :: rest ∧ Respelled item other ∧ ItemsRespelled items rest := by
  cases others with
  | nil => simp [ItemsRespelled, mapItemNumbers] at same
  | cons other rest =>
    rw [ItemsRespelled, mapItemNumbers, mapItemNumbers] at same
    exact ⟨other, rest, rfl, (List.cons.inj same).1, (List.cons.inj same).2⟩

theorem ItemsRespelled.nil (same : ItemsRespelled [] others) : others = [] := by
  cases others with
  | nil => rfl
  | cons => simp [ItemsRespelled, mapItemNumbers] at same

/-- A node with nothing below it, and no number. -/
def isLeaf : Pattern → Bool
  | wildcard | null | undefined | boolean _ | string _ | identifier _ | key _ | tag _
  | extractor _ | blank => true
  | _ => false

/-- Two trees that share a spelling, side by side. -/
inductive SideBySide : Pattern → Pattern → Prop where
  | leaf {p : Pattern} : p.isLeaf = true → SideBySide p p
  | number {a b : Number} : a.normalized = b.normalized → SideBySide (.number a) (.number b)
  | binder {name : Text} {p q : Pattern} : Respelled p q →
      SideBySide (.binder name p) (.binder name q)
  | rest {p q : Pattern} : Respelled p q → SideBySide (.rest p) (.rest q)
  | keyValue {name : Text} {p q : Pattern} : Respelled p q →
      SideBySide (.keyValue name p) (.keyValue name q)
  | extractorOf {name : Text} {p q : Pattern} : Respelled p q →
      SideBySide (.extractorOf name p) (.extractorOf name q)
  | array {items others : List Pattern} : ItemsRespelled items others →
      SideBySide (.array items) (.array others)
  | object {items others : List Pattern} : ItemsRespelled items others →
      SideBySide (.object items) (.object others)
  | tagArray {name : Text} {items others : List Pattern} : ItemsRespelled items others →
      SideBySide (.tagArray name items) (.tagArray name others)
  | tagObject {name : Text} {items others : List Pattern} : ItemsRespelled items others →
      SideBySide (.tagObject name items) (.tagObject name others)
  | argumentList {items others : List Pattern} : ItemsRespelled items others →
      SideBySide (.argumentList items) (.argumentList others)

/-- Trees that share a spelling have the same node at the root, and share the spellings below it. -/
theorem Respelled.sideBySide {p q : Pattern} (same : Respelled p q) : SideBySide p q := by
  unfold Respelled normalized at same
  cases p <;> cases q <;> simp only [mapNumbers, reduceCtorEq] at same
  case number.number => exact .number (number.inj same)
  case rest.rest => exact .rest (rest.inj same)
  case array.array => exact .array (array.inj same)
  case object.object => exact .object (object.inj same)
  case argumentList.argumentList => exact .argumentList (argumentList.inj same)
  case binder.binder =>
    obtain ⟨rfl, below⟩ := binder.inj same
    exact .binder below
  case keyValue.keyValue =>
    obtain ⟨rfl, below⟩ := keyValue.inj same
    exact .keyValue below
  case extractorOf.extractorOf =>
    obtain ⟨rfl, below⟩ := extractorOf.inj same
    exact .extractorOf below
  case tagArray.tagArray =>
    obtain ⟨rfl, below⟩ := tagArray.inj same
    exact .tagArray below
  case tagObject.tagObject =>
    obtain ⟨rfl, below⟩ := tagObject.inj same
    exact .tagObject below
  all_goals first | exact .leaf rfl | (cases same; exact .leaf rfl)

theorem Respelled.exists_rest {inner q : Pattern} (same : Respelled (.rest inner) q) :
    ∃ other, q = .rest other ∧ Respelled inner other := by
  cases same.sideBySide with
  | leaf isLeaf => cases isLeaf
  | rest below => exact ⟨_, rfl, below⟩

theorem Respelled.eq_identifier {name : Text} {q : Pattern}
    (same : Respelled (.identifier name) q) : q = .identifier name := by
  cases same.sideBySide with
  | leaf => rfl

end Respelled

end Pattern

namespace Matching

open Pattern (Respelled ItemsRespelled)

/-! ## Parts of a run -/

section Parts

variable {items others : List Pattern} {v : Value}

theorem each_congr {run other : Value → Traced Match} {compared : Value → List Comparison}
    {elements : List Value} (steady : Steady (comparedEach run compared elements))
    (same : ∀ element, Steady (compared element) → other element = run element) :
    each other elements = each run elements := by
  induction elements with
  | nil => rfl
  | cons element elements ih =>
    rw [comparedEach, steady_append] at steady
    unfold each
    rw [same element steady.1]
    apply Traced.bind_congr
    intro found ran
    cases found with
    | none => rfl
    | some captures => simp only [ih (steady.2.behind ran)]

theorem overElements_congr {next other : List Value → Traced Match}
    {compared : List Value → List Comparison} (steady : Steady (comparedElements items v compared))
    (respelled : ItemsRespelled items others)
    (same : ∀ elements, Steady (compared elements) → other elements = next elements) :
    overElements others v other = overElements items v next := by
  have fitting (length : Nat) : lengthFits others length = lengthFits items length := by
    rw [lengthFits, lengthFits, respelled.hasRest_eq, respelled.length_eq]
  unfold overElements
  unfold comparedElements at steady
  split
  · rfl
  · next elements found =>
    rw [found] at steady
    rw [fitting]
    split
    · next fits =>
      simp only [fits, if_true] at steady
      exact same elements steady
    · rfl

theorem overEntries_congr {next other : List (Value × Value) → Traced Match}
    {compared : List (Value × Value) → List Comparison}
    (steady : Steady (comparedEntries items v compared))
    (respelled : ItemsRespelled items others)
    (same : ∀ entries, Steady (compared entries) → other entries = next entries) :
    overEntries others v other = overEntries items v next := by
  have fitting (entries : List (Value × Value)) : keysFit others entries = keysFit items entries := by
    rw [keysFit, keysFit, respelled.hasRest_eq, respelled.declaredNames_eq]
  unfold overEntries
  unfold comparedEntries at steady
  split
  · rfl
  · next entries found =>
    rw [found] at steady
    rw [fitting]
    split
    · next fits =>
      simp only [fits, if_true] at steady
      exact same entries steady
    · rfl

theorem overComponents_congr {holds : Bool} {components : Traced (Option Value)}
    {next other : Value → Traced Match} {compared : Value → List Comparison}
    (steady : Steady (comparedComponents holds components compared))
    (same : ∀ found, Steady (compared found) → other found = next found) :
    overComponents holds components other = overComponents holds components next := by
  unfold overComponents
  unfold comparedComponents at steady
  split
  · next holds =>
    rw [if_pos holds] at steady
    apply Traced.bind_congr
    intro found asked
    cases found with
    | none => rfl
    | some found =>
      rw [asked] at steady
      exact same found steady
  · rfl

theorem overExtracted_congr {result : Traced Value} {next other : Value → Traced Match}
    {compared : Value → List Comparison} (steady : Steady (comparedExtracted result compared))
    (same : ∀ extracted, Steady (compared extracted) → other extracted = next extracted) :
    overExtracted result other = overExtracted result next := by
  unfold overExtracted
  unfold comparedExtracted at steady
  apply Traced.bind_congr
  intro answer called
  cases answer with
  | pass extracted =>
    rw [called] at steady
    exact same extracted steady
  | _ => rfl

theorem overEntry_congr {entries : List (Value × Value)} {name : Text}
    {next other : Value → Traced Match} {compared : Value → List Comparison}
    (steady : Steady (comparedEntry entries name compared))
    (same : ∀ value, Steady (compared value) → other value = next value) :
    overEntry entries name other = overEntry entries name next := by
  unfold overEntry
  unfold comparedEntry at steady
  split
  · rfl
  · next value found =>
    rw [found] at steady
    exact same value steady

end Parts

section Respelled

variable {items : List Pattern} {v : Value} {literal other : Number}

theorem literalTest_respelled (same : literal.normalized = other.normalized)
    (steady : ¬v.IsSensitive literal) : literalTest v other = literalTest v literal := by
  have equal : v.numberEquals other = v.numberEquals literal := by
    by_contra differ
    exact steady ⟨other, literal, same.symm, rfl, differ⟩
  rw [literalTest, literalTest, equal]

theorem restCaptured_respelled {inner other : Pattern} {span : Value}
    {rows more : Unit → Traced (Option (List (List Value)))} (same : Respelled inner other)
    (equal : more () = rows ()) : restCaptured other span more = restCaptured inner span rows := by
  have count := same.captureCount_eq
  cases same.sideBySide with
  | leaf =>
    unfold restCaptured
    rw [equal]
  | _ =>
    simp only [restCaptured, count, equal]

theorem comparedItems_item {ctx : Context} {item : Pattern} {element : Value}
    {elements : List Value} (notRest : item.isRest = false) :
    comparedItems ctx (item :: items) (element :: elements) =
      compared ctx item element ++
        behind (run ctx item element) (comparedItems ctx items elements) := by
  cases item <;> first | (rw [comparedItems]; intro inner same; cases same) | cases notRest

end Respelled

mutual

/-- A run goes the same way in a tree that is respelled, if it comes to no comparison that tells the
spellings apart. -/
theorem run_respelled {ctx : Context} {p q : Pattern} (v : Value) (same : Respelled p q)
    (steady : Steady (compared ctx p v)) : run ctx q v = run ctx p v := by
  cases same.sideBySide with
  | leaf => rfl
  | number spelled =>
    rw [compared] at steady
    rw [run, run, literalTest_respelled spelled (steady _ List.mem_cons_self)]
  | binder below =>
    rw [compared] at steady
    rw [run, run, run_respelled v below steady]
  | rest | keyValue => rfl
  | array below | argumentList below =>
    rw [compared] at steady
    rw [run, run]
    exact overElements_congr steady below fun elements steady =>
      runItems_respelled v 0 elements below steady
  | object below =>
    rw [compared] at steady
    rw [run, run, below.declaredNames_eq]
    exact overEntries_congr steady below fun entries steady =>
      runFields_respelled _ entries below steady
  | tagArray below =>
    rw [compared] at steady
    rw [run, run]
    exact overComponents_congr steady fun found steady =>
      overElements_congr steady below fun elements steady =>
        runItems_respelled found 0 elements below steady
  | tagObject below =>
    rw [compared] at steady
    rw [run, run, below.declaredNames_eq]
    exact overComponents_congr steady fun found steady =>
      overEntries_congr steady below fun entries steady =>
        runFields_respelled _ entries below steady
  | extractorOf below =>
    rw [compared] at steady
    rw [run, run]
    exact overExtracted_congr steady fun extracted steady => run_respelled extracted below steady
termination_by sizeOf p

theorem runItems_respelled {ctx : Context} {items others : List Pattern} (whole : Value)
    (start : Nat) (elements : List Value) (same : ItemsRespelled items others)
    (steady : Steady (comparedItems ctx items elements)) :
    runItems ctx others whole start elements = runItems ctx items whole start elements := by
  match items with
  | [] => rw [same.nil]
  | item :: items =>
    obtain ⟨other, rest, rfl, one, later⟩ := same.cons
    cases isRest : item.isRest with
    | true =>
      obtain ⟨inner, rfl⟩ := Pattern.exists_rest isRest
      obtain ⟨inside, rfl, held⟩ := one.exists_rest
      rw [comparedItems, steady_append] at steady
      rw [runItems_rest, runItems_rest, later.length_eq]
      refine both_congr (restCaptured_respelled held ?_) fun captures ran => ?_
      · exact each_congr steady.1 fun element steady => run_respelled element held steady
      · obtain ⟨rows, answered⟩ := each_of_restCaptured ran
        exact runItems_respelled whole _ _ later (steady.2.behind answered)
    | false =>
      have alsoItem : other.isRest = false := by rw [one.isRest_eq, isRest]
      cases elements with
      | nil => rw [runItems_short isRest, runItems_short alsoItem]
      | cons element elements =>
        rw [comparedItems_item isRest, steady_append] at steady
        rw [runItems_item isRest, runItems_item alsoItem]
        apply both_congr (run_respelled element one steady.1)
        intro captures ran
        exact runItems_respelled whole _ _ later (steady.2.behind ran)
termination_by sizeOf items

theorem runFields_respelled {ctx : Context} (names : List Text) {items others : List Pattern}
    (entries : List (Value × Value)) (same : ItemsRespelled items others)
    (steady : Steady (comparedFields ctx items entries)) :
    runFields ctx names others entries = runFields ctx names items entries := by
  match items with
  | [] => rw [same.nil]
  | item :: items =>
    obtain ⟨other, others, rfl, one, later⟩ := same.cons
    have skip (steady : Steady (comparedFields ctx items entries)) :
        runFields ctx names others entries = runFields ctx names items entries :=
      runFields_respelled names entries later steady
    have step {first second : Traced Match} {own : List Comparison}
        (equal : Steady own → second = first)
        (steady : Steady (own ++ behind first (comparedFields ctx items entries))) :
        both second (fun _ => runFields ctx names others entries) =
          both first fun _ => runFields ctx names items entries := by
      rw [steady_append] at steady
      exact both_congr (equal steady.1) fun captures ran => skip (steady.2.behind ran)
    cases one.sideBySide with
    | keyValue below | binder below | extractorOf below =>
      rw [comparedFields] at steady
      rw [runFields, runFields]
      exact step (fun steady => overEntry_congr steady fun value steady =>
        run_respelled value below steady) steady
    | tagArray below =>
      rw [comparedFields] at steady
      rw [runFields, runFields]
      exact step (fun steady => overEntry_congr steady fun value steady =>
        overElements_congr steady below fun elements steady =>
          runItems_respelled value 0 elements below steady) steady
    | tagObject below =>
      rw [comparedFields] at steady
      rw [runFields, runFields, below.declaredNames_eq]
      exact step (fun steady => overEntry_congr steady fun value steady =>
        overEntries_congr steady below fun entries steady =>
          runFields_respelled _ entries below steady) steady
    | leaf isLeaf =>
      cases item with
      | key name =>
        rw [comparedFields] at steady
        rw [runFields, runFields]
        exact both_congr rfl fun captures ran => skip (steady.behind ran)
      | wildcard | null | undefined | boolean | string | identifier | tag | extractor | blank =>
        simp only [comparedFields] at steady
        simp only [runFields]
        exact skip steady
      | _ => cases isLeaf
    | number | array | object | argumentList =>
      simp only [comparedFields] at steady
      simp only [runFields]
      exact skip steady
    | @rest inner inside below =>
      simp only [comparedFields] at steady
      by_cases named : ∃ name, inner = .identifier name
      · obtain ⟨name, rfl⟩ := named
        rw [below.eq_identifier, runFields, runFields]
        exact both_congr rfl fun _ _ => skip steady
      · have back : Respelled inside inner := Eq.symm below
        rw [runFields_rest fun name is => named ⟨name, is⟩, runFields_rest]
        · exact skip steady
        · rintro name rfl
          exact named ⟨name, back.eq_identifier⟩
termination_by sizeOf items

end

end Matching

end PatternDispatch
