import PatternDispatch.Matching

/-!
The visits of a run. All that a pattern could come to on a value is listed from left to right and
into the depth, without asking whether one part matches before the next is listed. A run is this
list, followed up to the first visit that does not let it go on.
-/

namespace PatternDispatch

namespace Matching

/-- What a run comes to on its way: a test of a value, or a call of a function behind a value. -/
inductive Visit where
  | test (holds : Bool)
  | comparison (value : Value) (literal : Number)
  /-- Whether a value is a sequence of a length that fits the items. -/
  | sequence (items : List Pattern) (value : Value)
  /-- Whether a value is a mapping with keys that fit the items. -/
  | mapping (items : List Pattern) (value : Value)
  | className (name : Text) (value : Value)
  /-- The positional components of a value under a class name. -/
  | components (name : Text) (value : Value)
  /-- The keyed components of a value. -/
  | entries (value : Value)
  | extractor (name : Text) (value : Value)

namespace Visit

def isPass : Value → Bool
  | .pass _ => true
  | _ => false

/-- Whether the run goes on behind a visit, and the events of the visit. -/
def outcome (ctx : Context) : Visit → Traced Bool
  | test holds => pure holds
  | comparison v literal => Option.isSome <$> literalTest v literal
  | sequence items v => pure (v.elements?.any fun elements => lengthFits items elements.length)
  | mapping items v => pure (v.entries?.any (keysFit items))
  | className name v => pure (ctx.typeMatches v name)
  | components name v => Option.isSome <$> ctx.positional v name
  | entries v => Option.isSome <$> ctx.keyed v
  | extractor name v => isPass <$> ctx.extractors.call name v

end Visit

mutual

/-- The visits of a pattern on a value, as far as the values below are known: what a class or an
extractor stands for is looked into only if there is something. -/
def visits (ctx : Context) : Pattern → Value → List Visit
  | .wildcard, _ | .identifier _, _ => []
  | .null, v => [.test v.isNull]
  | .undefined, v => [.test v.isUndefined]
  | .boolean expected, v => [.test (v.isBool expected)]
  | .number literal, v => [.comparison v literal]
  | .string text, v => [.test (v.text? == some text)]
  | .binder _ inner, v => visits ctx inner v
  | .array items, v | .argumentList items, v =>
    .sequence items v :: itemVisits ctx items (v.elements?.getD [])
  | .object items, v => .mapping items v :: fieldVisits ctx items (v.entries?.getD [])
  | .tag name, v => [.className name v]
  | .tagArray name items, v =>
    .className name v :: .components name v ::
      match (ctx.positional v name).result with
      | .ok (some found) => .sequence items found :: itemVisits ctx items (found.elements?.getD [])
      | _ => []
  | .tagObject name items, v =>
    .className name v :: .entries v ::
      match (ctx.keyed v).result with
      | .ok (some found) => .mapping items found :: fieldVisits ctx items (found.entries?.getD [])
      | _ => []
  | .extractor name, v => [.extractor name v]
  | .extractorOf name inner, v =>
    .extractor name v ::
      match (ctx.extractors.call name v).result with
      | .ok (.pass extracted) => visits ctx inner extracted
      | _ => []
  | _, _ => [.test false]

/-- Items against elements: what a rest holds is visited for each element of the span, between the
items in front of it and those behind. -/
def itemVisits (ctx : Context) : List Pattern → List Value → List Visit
  | [], _ => []
  | .rest inner :: items, elements =>
    let count := elements.length - items.length
    (elements.take count).flatMap (visits ctx inner) ++ itemVisits ctx items (elements.drop count)
  | item :: items, element :: elements => visits ctx item element ++ itemVisits ctx items elements
  | _ :: _, [] => [.test false]

/-- Object items against entries: only what stands behind a name is visited. -/
def fieldVisits (ctx : Context) : List Pattern → List (Value × Value) → List Visit
  | [], _ => []
  | .keyValue name inner :: items, entries | .binder name inner :: items, entries
  | .extractorOf name inner :: items, entries =>
    ((Value.lookupText entries name).elim [] (visits ctx inner)) ++ fieldVisits ctx items entries
  | .tagArray name inner :: items, entries =>
    ((Value.lookupText entries name).elim [] fun v =>
      .sequence inner v :: itemVisits ctx inner (v.elements?.getD [])) ++
        fieldVisits ctx items entries
  | .tagObject name inner :: items, entries =>
    ((Value.lookupText entries name).elim [] fun v =>
      .mapping inner v :: fieldVisits ctx inner (v.entries?.getD [])) ++
        fieldVisits ctx items entries
  | _ :: items, entries => fieldVisits ctx items entries

end

/-- Visits in their order, up to the first that does not let the run go on. -/
def follow (ctx : Context) : List Visit → Traced Bool
  | [] => pure true
  | visit :: others => do if ← visit.outcome ctx then follow ctx others else pure false

/-- One part and then the other, if the first lets the run go on. -/
def andAlso (first : Traced Bool) (second : Traced Bool) : Traced Bool := do
  if ← first then second else pure false

section Follow

variable {ctx : Context}

theorem follow_cons (visit : Visit) (others : List Visit) :
    follow ctx (visit :: others) = andAlso (visit.outcome ctx) (follow ctx others) := rfl

theorem true_andAlso (second : Traced Bool) : andAlso (pure true) second = second := by
  simp [andAlso]

theorem false_andAlso (second : Traced Bool) : andAlso (pure false) second = pure false := by
  simp [andAlso]

theorem andAlso_assoc (first second third : Traced Bool) :
    andAlso (andAlso first second) third = andAlso first (andAlso second third) := by
  unfold andAlso
  rw [bind_assoc]
  apply bind_congr
  intro goesOn
  cases goesOn <;> simp

theorem andAlso_true (first : Traced Bool) : andAlso first (pure true) = first :=
  calc
    andAlso first (pure true) = first >>= pure := by
      apply bind_congr
      intro goesOn
      cases goesOn <;> rfl
    _ = first := bind_pure first

theorem follow_append (visits others : List Visit) :
    follow ctx (visits ++ others) = andAlso (follow ctx visits) (follow ctx others) := by
  induction visits with
  | nil => exact (true_andAlso _).symm
  | cons visit visits ih => rw [List.cons_append, follow_cons, ih, follow_cons, andAlso_assoc]

theorem follow_one (visit : Visit) : follow ctx [visit] = visit.outcome ctx :=
  andAlso_true _

end Follow

/-! ## Parts of a run -/

section Parts

variable {ctx : Context}

theorem isSome_test (holds : Bool) : Option.isSome <$> test holds = pure holds := by
  cases holds <;> rfl

theorem isSome_bind {α β : Type} {first : Traced (Option α)} {next : Option α → Traced (Option β)}
    {second : Traced Bool} (stops : Option.isSome <$> next none = pure false)
    (goesOn : ∀ a, Option.isSome <$> next (some a) = second) :
    Option.isSome <$> (first >>= next) = andAlso (Option.isSome <$> first) second := by
  unfold andAlso
  rw [map_bind, bind_map_left]
  apply bind_congr
  intro found
  cases found with
  | none => exact stops
  | some a => exact goesOn a

/-- A step that only rewrites what is found matches where it is found. -/
theorem isSome_bind_found {α β : Type} {first : Traced (Option α)}
    {next : Option α → Traced (Option β)}
    (same : ∀ found, Option.isSome <$> next found = pure found.isSome) :
    Option.isSome <$> (first >>= next) = Option.isSome <$> first := by
  rw [map_bind, ← bind_pure_comp]
  apply bind_congr
  exact same

theorem isSome_both (first : Traced Match) (second : Unit → Traced Match) :
    Option.isSome <$> both first second =
      andAlso (Option.isSome <$> first) (Option.isSome <$> second ()) := by
  apply isSome_bind rfl
  intro captures
  apply isSome_bind_found
  intro found
  cases found <;> rfl

/-- Matching every element is following the visits of the elements. -/
theorem isSome_each {run : Value → Traced Match} {visited : Value → List Visit}
    (same : ∀ v, Option.isSome <$> run v = follow ctx (visited v)) (elements : List Value) :
    Option.isSome <$> each run elements = follow ctx (elements.flatMap visited) := by
  induction elements with
  | nil => rfl
  | cons element elements ih =>
    rw [List.flatMap_cons, follow_append, ← same, ← ih]
    apply isSome_bind rfl
    intro captures
    apply isSome_bind_found
    intro found
    cases found <;> rfl

theorem isSome_collected (count : Nat) (rows : Traced (Option (List (List Value)))) :
    Option.isSome <$> collected count rows = Option.isSome <$> rows := by
  apply isSome_bind_found
  intro found
  cases found <;> rfl

/-- A rest matches as what it holds does on every element of the span; a name or nothing does on
every element. -/
theorem isSome_restCaptured {inner : Pattern} {span : Value} {elements : List Value}
    (same : ∀ v, Option.isSome <$> run ctx inner v = follow ctx (visits ctx inner v)) :
    Option.isSome <$> restCaptured inner span (fun _ => each (run ctx inner) elements) =
      follow ctx (elements.flatMap (visits ctx inner)) := by
  have plain (none : ∀ v, visits ctx inner v = []) :
      elements.flatMap (visits ctx inner) = [] :=
    List.flatMap_eq_nil_iff.mpr fun v _ => none v
  cases inner with
  | wildcard =>
    rw [plain fun v => by rw [visits]]
    rfl
  | identifier name =>
    rw [plain fun v => by rw [visits]]
    rfl
  | _ => exact (isSome_collected _ _).trans (isSome_each same elements)

theorem isSome_overElements {items : List Pattern} {v : Value} {next : List Value → Traced Match}
    {others : List Visit}
    (same : ∀ elements, v.elements? = some elements →
      Option.isSome <$> next elements = follow ctx others) :
    Option.isSome <$> overElements items v next = follow ctx (.sequence items v :: others) := by
  rw [follow_cons, Visit.outcome]
  unfold overElements
  cases found : v.elements? with
  | none => exact (false_andAlso _).symm
  | some elements =>
    rw [Option.any_some]
    dsimp only
    cases lengthFits items elements.length with
    | false => exact (false_andAlso _).symm
    | true => exact (same elements found).trans (true_andAlso _).symm

theorem isSome_overEntries {items : List Pattern} {v : Value}
    {next : List (Value × Value) → Traced Match} {others : List Visit}
    (same : ∀ entries, v.entries? = some entries → keysFit items entries = true →
      Option.isSome <$> next entries = follow ctx others) :
    Option.isSome <$> overEntries items v next = follow ctx (.mapping items v :: others) := by
  rw [follow_cons, Visit.outcome]
  unfold overEntries
  cases found : v.entries? with
  | none => exact (false_andAlso _).symm
  | some entries =>
    rw [Option.any_some]
    dsimp only
    cases fits : keysFit items entries with
    | false => exact (false_andAlso _).symm
    | true => exact (same entries found fits).trans (true_andAlso _).symm

theorem isSome_overComponents {name : Text} {v : Value} {visit : Visit}
    {components : Traced (Option Value)} {next : Value → Traced Match} {others : List Visit}
    (asked : visit.outcome ctx = Option.isSome <$> components)
    (same : ∀ found, components.result = .ok (some found) →
      Option.isSome <$> next found = follow ctx others) :
    Option.isSome <$> overComponents (ctx.typeMatches v name) components next =
      follow ctx (.className name v :: visit :: others) := by
  rw [follow_cons, Visit.outcome, follow_cons, asked]
  unfold overComponents
  cases ctx.typeMatches v name with
  | false => exact (false_andAlso _).symm
  | true =>
    rw [true_andAlso, if_pos rfl]
    unfold andAlso
    rw [map_bind, bind_map_left]
    apply Traced.bind_congr
    intro found answered
    cases found with
    | none => rfl
    | some found => exact same found answered

theorem isSome_overExtracted {name : Text} {v : Value} {next : Value → Traced Match}
    {others : List Visit}
    (same : ∀ extracted, (ctx.extractors.call name v).result = .ok (.pass extracted) →
      Option.isSome <$> next extracted = follow ctx others) :
    Option.isSome <$> overExtracted (ctx.extractors.call name v) next =
      follow ctx (.extractor name v :: others) := by
  rw [follow_cons, Visit.outcome]
  unfold overExtracted andAlso
  rw [map_bind, bind_map_left]
  apply Traced.bind_congr
  intro found answered
  cases found with
  | pass extracted => exact same extracted answered
  | _ => rfl

/-- A name that a mapping has is looked up without a visit of its own. -/
theorem isSome_overEntry {entries : List (Value × Value)} {name : Text}
    {next : Value → Traced Match} {visited : Value → List Visit}
    (present : (Value.lookupText entries name).isSome = true)
    (same : ∀ v, Option.isSome <$> next v = follow ctx (visited v)) :
    Option.isSome <$> overEntry entries name next =
      follow ctx ((Value.lookupText entries name).elim [] visited) := by
  unfold overEntry
  cases found : Value.lookupText entries name with
  | none =>
    rw [found] at present
    cases present
  | some v => exact same v

end Parts

/-! ## Whole runs -/

section Runs

variable {ctx : Context}

/-- Whether a mapping has all names that items declare. -/
def NamesPresent (items : List Pattern) (entries : List (Value × Value)) : Prop :=
  ∀ item ∈ items, ∀ name, fieldName? item = some name →
    (Value.lookupText entries name).isSome = true

theorem namesPresent_of_keysFit {items : List Pattern} {entries : List (Value × Value)}
    (fits : keysFit items entries = true) : NamesPresent items entries := by
  intro item member name named
  have declared : name ∈ declaredNames items := List.mem_filterMap.mpr ⟨item, member, named⟩
  have present := (Bool.and_eq_true_iff.mp fits).1
  exact List.all_eq_true.mp present name declared

theorem itemVisits_item {item : Pattern} {items : List Pattern} {element : Value}
    {elements : List Value} (notRest : item.isRest = false) :
    itemVisits ctx (item :: items) (element :: elements) =
      visits ctx item element ++ itemVisits ctx items elements := by
  cases item <;> first | (rw [itemVisits]; intro inner same; cases same) | cases notRest

theorem itemVisits_short {item : Pattern} {items : List Pattern} (notRest : item.isRest = false) :
    itemVisits ctx (item :: items) [] = [.test false] := by
  cases item <;> first | (rw [itemVisits]; intro inner same; cases same) | cases notRest

mutual

/-- A run goes on as far as its visits in their order let it. -/
theorem run_follows (p : Pattern) (v : Value) :
    Option.isSome <$> run ctx p v = follow ctx (visits ctx p v) := by
  cases p with
  | wildcard | identifier => rfl
  | null | undefined | boolean | string | tag =>
    rw [run, visits, follow_one, isSome_test]
    rfl
  | number =>
    rw [run, visits, follow_one]
    rfl
  | binder name inner =>
    rw [run, visits, isSome_both, run_follows inner v]
    exact true_andAlso _
  | array items | argumentList items =>
    rw [run, visits]
    apply isSome_overElements
    intro elements found
    rw [found]
    exact runItems_follow items v 0 elements
  | object items =>
    rw [run, visits]
    apply isSome_overEntries
    intro entries found fits
    rw [found]
    exact runFields_follow _ items entries (namesPresent_of_keysFit fits)
  | tagArray name items =>
    rw [run, visits]
    -- The listing goes on below the components that the class answers, so the answer is put in first.
    apply isSome_overComponents rfl
    intro found answered
    rw [answered]
    apply isSome_overElements
    intro elements found
    rw [found]
    exact runItems_follow items _ 0 elements
  | tagObject name items =>
    rw [run, visits]
    apply isSome_overComponents rfl
    intro found answered
    rw [answered]
    apply isSome_overEntries
    intro entries found fits
    rw [found]
    exact runFields_follow _ items entries (namesPresent_of_keysFit fits)
  | extractor name =>
    rw [run, visits]
    apply isSome_overExtracted
    intro extracted answered
    rfl
  | extractorOf name inner =>
    rw [run, visits]
    apply isSome_overExtracted
    intro extracted answered
    rw [answered]
    exact run_follows inner extracted
  | rest | key | keyValue | blank => rfl
termination_by sizeOf p

theorem runItems_follow (items : List Pattern) (whole : Value) (start : Nat)
    (elements : List Value) :
    Option.isSome <$> runItems ctx items whole start elements =
      follow ctx (itemVisits ctx items elements) := by
  match items with
  | [] => rfl
  | item :: items =>
    cases isRest : item.isRest with
    | true =>
      obtain ⟨inner, rfl⟩ := Pattern.exists_rest isRest
      rw [runItems_rest, itemVisits, isSome_both, follow_append]
      rw [isSome_restCaptured fun v => run_follows inner v, runItems_follow items]
    | false =>
      cases elements with
      | nil =>
        rw [runItems_short isRest, itemVisits_short isRest]
        rfl
      | cons element elements =>
        rw [runItems_item isRest, itemVisits_item isRest, isSome_both, follow_append,
          run_follows item element, runItems_follow items]
termination_by sizeOf items

theorem runFields_follow (names : List Text) (items : List Pattern)
    (entries : List (Value × Value)) (present : NamesPresent items entries) :
    Option.isSome <$> runFields ctx names items entries =
      follow ctx (fieldVisits ctx items entries) := by
  match items with
  | [] => rfl
  | item :: items =>
    have own := present item List.mem_cons_self
    have behind := runFields_follow names items entries fun other member =>
      present other (List.mem_cons_of_mem item member)
    have step {first : Traced Match} {visited : List Visit}
        (same : Option.isSome <$> first = follow ctx visited) :
        Option.isSome <$> both first (fun _ => runFields ctx names items entries) =
          follow ctx (visited ++ fieldVisits ctx items entries) := by
      rw [isSome_both, same, behind, follow_append]
    cases item with
    | keyValue name inner | binder name inner | extractorOf name inner =>
      rw [runFields, fieldVisits]
      apply step
      exact isSome_overEntry (own name rfl) fun v => run_follows inner v
    | tagArray name inner =>
      rw [runFields, fieldVisits]
      apply step
      apply isSome_overEntry (own name rfl)
      intro v
      apply isSome_overElements
      intro elements found
      rw [found]
      exact runItems_follow inner v 0 elements
    | tagObject name inner =>
      rw [runFields, fieldVisits]
      apply step
      apply isSome_overEntry (own name rfl)
      intro v
      apply isSome_overEntries
      intro below found fits
      rw [found]
      exact runFields_follow _ inner below (namesPresent_of_keysFit fits)
    | key name =>
      obtain ⟨value, found⟩ := Option.isSome_iff_exists.mp (own name rfl)
      have captures : Option.isSome <$> overEntry entries name (fun v => captured [v]) =
          follow ctx [] := by
        rw [overEntry, found]
        rfl
      simp only [runFields, fieldVisits]
      exact step captures
    | rest inner =>
      simp only [fieldVisits]
      by_cases named : ∃ name, inner = .identifier name
      · obtain ⟨name, rfl⟩ := named
        rw [runFields]
        exact @step (captured [undeclared names entries]) [] rfl
      · rw [runFields_rest fun name is => named ⟨name, is⟩]
        exact behind
    | _ =>
      simp only [runFields, fieldVisits]
      exact behind
termination_by sizeOf items

end

end Runs

/-! ## The order of the visits -/

section Order

variable {ctx : Context} {items : List Pattern} {elements : List Value}

/-- Items without a rest are visited side by side with the elements. -/
theorem itemVisits_exact (noRest : ∀ item ∈ items, item.isRest = false)
    (length : elements.length = items.length) :
    itemVisits ctx items elements = (List.zipWith (visits ctx) items elements).flatten := by
  induction items generalizing elements with
  | nil => rw [itemVisits, List.zipWith_nil_left, List.flatten_nil]
  | cons item items ih =>
    cases elements with
    | nil => cases length
    | cons element elements =>
      rw [itemVisits_item (noRest item List.mem_cons_self), List.zipWith_cons_cons,
        List.flatten_cons, ih _ (Nat.succ.inj length)]
      exact fun other member => noRest other (List.mem_cons_of_mem item member)

/-- What a rest holds is visited for every element of its span, between the items in front of the
rest and those behind it. -/
theorem itemVisits_span {inner : Pattern} {head tail : List Pattern} {front span back : List Value}
    (noRest : ∀ item ∈ head ++ tail, item.isRest = false) (before : front.length = head.length)
    (behind : back.length = tail.length) :
    itemVisits ctx (head ++ .rest inner :: tail) (front ++ (span ++ back)) =
      (List.zipWith (visits ctx) head front).flatten ++
        (span.flatMap (visits ctx inner) ++ (List.zipWith (visits ctx) tail back).flatten) := by
  induction head generalizing front with
  | nil =>
    obtain rfl : front = [] := List.length_eq_zero_iff.mp before
    have count : (span ++ back).length - tail.length = span.length := by
      rw [List.length_append]
      omega
    rw [List.nil_append] at noRest
    rw [List.nil_append, List.nil_append, List.zipWith_nil_left, List.flatten_nil, List.nil_append,
      itemVisits, count, List.take_left, List.drop_left, itemVisits_exact noRest behind]
  | cons item head ih =>
    cases front with
    | nil => cases before
    | cons element front =>
      have own := noRest item List.mem_cons_self
      have others := fun other member => noRest other (List.mem_cons_of_mem item member)
      rw [List.cons_append, List.cons_append, itemVisits_item own,
        ih others (Nat.succ.inj before), List.zipWith_cons_cons, List.flatten_cons,
        List.append_assoc]

end Order

end Matching

end PatternDispatch
