import PatternDispatch.Proofs.ReadableProcedure
import PatternDispatch.Proofs.VisitOrder

/-!
The order in which a run works through a pattern. The first visit that does not let a run go on ends
it: the events of the run are those of the visits up to this one, and this one decides between a
mismatch and a failure. So nothing behind a part that does not match is ever called.
-/

namespace PatternDispatch

/-- Whether an event is a call of a function that a run consults, an extractor or a hook. -/
def Event.isCall : Event → Bool
  | extractorCalled _ _ _ | componentsAsked _ | entriesAsked _ | fieldsAsked _ => true
  | _ => false

namespace Matching

/-! ## How far a run comes -/

namespace Visit

/-- Whether a visit lets the run go on. -/
def goesOn (ctx : Context) (visit : Visit) : Bool :=
  match (visit.outcome ctx).result with
  | .ok holds => holds
  | .error _ => false

/-- The calls that are made on a visit. -/
def events (ctx : Context) (visit : Visit) : List Event := (visit.outcome ctx).events

/-- Whether a function that is called on a visit raises a failure of its own. -/
def Raises (ctx : Context) (failure : Failure) : Visit → Prop
  | components name v => (ctx.positional v name).result = .error failure
  | entries v => (ctx.keyed v).result = .error failure
  | extractor name v =>
    ∃ function, ctx.extractors.find? name = some function ∧ function.run v = .error failure
  | _ => False

/-- Only what belongs to a class is asked for its components. -/
def Justified (ctx : Context) : Visit → Prop
  | components name v => ctx.typeMatches v name = true
  | entries v => ∃ name, ctx.typeMatches v name = true
  | _ => True

end Visit

/-- Whether a run comes to a visit: all visits in front of it let the run go on. -/
def Reaches (ctx : Context) (visits : List Visit) (visit : Visit) : Prop :=
  ∃ before after, visits = before ++ visit :: after ∧ ∀ earlier ∈ before, earlier.goesOn ctx = true

/-- Whether every visit that a run comes to is justified. -/
def Safe (ctx : Context) : List Visit → Prop
  | [] => True
  | visit :: others => visit.Justified ctx ∧ (visit.goesOn ctx = true → Safe ctx others)

section Reached

variable {ctx : Context}

theorem follow_all {visits : List Visit} (all : ∀ visit ∈ visits, visit.goesOn ctx = true) :
    follow ctx visits = ⟨visits.flatMap (·.events ctx), .ok true⟩ := by
  induction visits with
  | nil => rfl
  | cons visit visits ih =>
    have own := all visit List.mem_cons_self
    rw [follow_cons, ih fun later member => all later (List.mem_cons_of_mem _ member)]
    unfold Visit.goesOn at own
    rw [List.flatMap_cons, Visit.events]
    cases made : visit.outcome ctx with
    | mk events result =>
      rw [made] at own
      cases result with
      | error failure => cases own
      | ok holds =>
        obtain rfl : holds = true := own
        rfl

theorem follow_stop {before after : List Visit} {stop : Visit}
    (passed : ∀ visit ∈ before, visit.goesOn ctx = true) (stops : stop.goesOn ctx = false) :
    follow ctx (before ++ stop :: after) =
      ⟨before.flatMap (·.events ctx) ++ stop.events ctx, (stop.outcome ctx).result⟩ := by
  have cut : follow ctx (stop :: after) = stop.outcome ctx := by
    rw [follow_cons]
    unfold Visit.goesOn at stops
    cases made : stop.outcome ctx with
    | mk events result =>
      rw [made] at stops
      cases result with
      | error failure => rfl
      | ok holds =>
        obtain rfl : holds = false := stops
        simp [andAlso, bind, pure]
  rw [follow_append, follow_all passed, cut]
  rfl

/-- Either all visits let a run go on, or there is a first that does not. -/
theorem exists_stop (ctx : Context) (visits : List Visit) :
    (∀ visit ∈ visits, visit.goesOn ctx = true) ∨
      ∃ before stop after, visits = before ++ stop :: after ∧
        (∀ visit ∈ before, visit.goesOn ctx = true) ∧ stop.goesOn ctx = false := by
  cases found : visits.find? (!·.goesOn ctx) with
  | none =>
    left
    simpa using List.find?_eq_none.mp found
  | some stop =>
    right
    obtain ⟨stops, before, after, split, passed⟩ := List.find?_eq_some_iff_append.mp found
    exact ⟨before, stop, after, split, by simpa using passed, by simpa using stops⟩

/-- There is but one first visit that does not let a run go on. -/
theorem stop_unique {before others after behind : List Visit} {stop other : Visit}
    (same : before ++ stop :: after = others ++ other :: behind)
    (passed : ∀ visit ∈ before, visit.goesOn ctx = true) (stops : stop.goesOn ctx = false)
    (passedToo : ∀ visit ∈ others, visit.goesOn ctx = true)
    (stopsToo : other.goesOn ctx = false) : before = others ∧ stop = other := by
  induction before generalizing others with
  | nil =>
    cases others with
    | nil => exact ⟨rfl, (List.cons.inj same).1⟩
    | cons first others =>
      obtain ⟨rfl, -⟩ := List.cons.inj same
      cases stops.symm.trans (passedToo stop List.mem_cons_self)
  | cons first before ih =>
    cases others with
    | nil =>
      obtain ⟨rfl, -⟩ := List.cons.inj same
      cases stopsToo.symm.trans (passed first List.mem_cons_self)
    | cons second others =>
      obtain ⟨rfl, behindSame⟩ := List.cons.inj same
      obtain ⟨rfl, rfl⟩ := ih behindSame (fun visit member => passed visit (.tail _ member))
        fun visit member => passedToo visit (.tail _ member)
      exact ⟨rfl, rfl⟩

theorem safe_append {visits others : List Visit} (first : Safe ctx visits)
    (later : Safe ctx others) : Safe ctx (visits ++ others) := by
  induction visits with
  | nil => exact later
  | cons visit visits ih => exact ⟨first.1, fun goesOn => ih (first.2 goesOn)⟩

theorem safe_flatMap {elements : List Value} {visited : Value → List Visit}
    (safe : ∀ v, Safe ctx (visited v)) : Safe ctx (elements.flatMap visited) := by
  induction elements with
  | nil => trivial
  | cons element elements ih => exact safe_append (safe element) ih

theorem safe_elim {value : Option Value} {visited : Value → List Visit}
    (safe : ∀ v, Safe ctx (visited v)) : Safe ctx (value.elim [] visited) := by
  cases value with
  | none => trivial
  | some v => exact safe v

theorem Safe.justified {visits : List Visit} {visit : Visit} (safe : Safe ctx visits)
    (reached : Reaches ctx visits visit) : visit.Justified ctx := by
  obtain ⟨before, after, rfl, passed⟩ := reached
  induction before with
  | nil => exact safe.1
  | cons earlier before ih =>
    apply ih
    · exact fun later member => passed later (List.mem_cons_of_mem _ member)
    · exact safe.2 (passed earlier List.mem_cons_self)

mutual

theorem visits_safe (p : Pattern) (v : Value) : Safe ctx (visits ctx p v) := by
  cases p with
  | wildcard | identifier => trivial
  | null | undefined | boolean | number | string | tag | extractor | rest | key | keyValue | blank =>
    exact ⟨trivial, fun _ => trivial⟩
  | binder name inner =>
    rw [visits]
    exact visits_safe inner v
  | array items | argumentList items =>
    rw [visits]
    exact ⟨trivial, fun _ => itemVisits_safe items _⟩
  | object items =>
    rw [visits]
    exact ⟨trivial, fun _ => fieldVisits_safe items _⟩
  | tagArray name items =>
    rw [visits]
    refine ⟨trivial, fun holds => ⟨holds, fun _ => ?_⟩⟩
    split
    · exact ⟨trivial, fun _ => itemVisits_safe items _⟩
    · trivial
  | tagObject name items =>
    rw [visits]
    refine ⟨trivial, fun holds => ⟨⟨name, holds⟩, fun _ => ?_⟩⟩
    split
    · exact ⟨trivial, fun _ => fieldVisits_safe items _⟩
    · trivial
  | extractorOf name inner =>
    rw [visits]
    refine ⟨trivial, fun _ => ?_⟩
    split
    · exact visits_safe inner _
    · trivial
termination_by sizeOf p

theorem itemVisits_safe (items : List Pattern) (elements : List Value) :
    Safe ctx (itemVisits ctx items elements) := by
  match items with
  | [] => trivial
  | item :: items =>
    cases isRest : item.isRest with
    | true =>
      obtain ⟨inner, rfl⟩ := Pattern.exists_rest isRest
      rw [itemVisits]
      exact safe_append (safe_flatMap fun v => visits_safe inner v) (itemVisits_safe items _)
    | false =>
      cases elements with
      | nil =>
        rw [itemVisits_short isRest]
        exact ⟨trivial, fun _ => trivial⟩
      | cons element elements =>
        rw [itemVisits_item isRest]
        exact safe_append (visits_safe item element) (itemVisits_safe items elements)
termination_by sizeOf items

theorem fieldVisits_safe (items : List Pattern) (entries : List (Value × Value)) :
    Safe ctx (fieldVisits ctx items entries) := by
  match items with
  | [] => trivial
  | item :: items =>
    have behind := fieldVisits_safe items entries
    cases item with
    | keyValue name inner | binder name inner | extractorOf name inner =>
      rw [fieldVisits]
      exact safe_append (safe_elim fun v => visits_safe inner v) behind
    | tagArray name inner =>
      rw [fieldVisits]
      refine safe_append (safe_elim fun v => ?_) behind
      exact ⟨trivial, fun _ => itemVisits_safe inner _⟩
    | tagObject name inner =>
      rw [fieldVisits]
      refine safe_append (safe_elim fun v => ?_) behind
      exact ⟨trivial, fun _ => fieldVisits_safe inner _⟩
    | _ =>
      simp only [fieldVisits]
      exact behind
termination_by sizeOf items

end

end Reached

/-! ## How a run ends -/

section Ends

variable {ctx : Context} {p : Pattern} {v : Value}

theorem run_events (ctx : Context) (p : Pattern) (v : Value) :
    (run ctx p v).events = (follow ctx (visits ctx p v)).events := by
  rw [← run_follows, Traced.map_eq]

theorem run_result (ctx : Context) (p : Pattern) (v : Value) :
    (run ctx p v).result.map Option.isSome = (follow ctx (visits ctx p v)).result := by
  rw [← run_follows, Traced.map_eq]

theorem map_isSome_eq_true {α : Type} {result : Except Failure (Option α)}
    (same : result.map Option.isSome = .ok true) : ∃ a, result = .ok (some a) := by
  cases result with
  | error failure => cases same
  | ok found =>
    cases found with
    | none => cases same
    | some a => exact ⟨a, rfl⟩

theorem map_isSome_eq_false {α : Type} {result : Except Failure (Option α)}
    (same : result.map Option.isSome = .ok false) : result = .ok none := by
  cases result with
  | error failure => cases same
  | ok found =>
    cases found with
    | none => rfl
    | some a => cases same

theorem map_eq_error {α β : Type} {result : Except Failure α} {f : α → β} {failure : Failure} :
    result.map f = .error failure ↔ result = .error failure := by
  cases result <;> simp [Except.map]

/-- A run makes its visits in their order up to the first that does not let it go on, and this one
decides between a mismatch and a failure. -/
theorem run_ends (ctx : Context) (p : Pattern) (v : Value) :
    ((∀ visit ∈ visits ctx p v, visit.goesOn ctx = true) ∧
        (run ctx p v).events = (visits ctx p v).flatMap (·.events ctx) ∧
        ∃ captures, (run ctx p v).result = .ok (some captures)) ∨
      ∃ before stop after, visits ctx p v = before ++ stop :: after ∧
        (∀ visit ∈ before, visit.goesOn ctx = true) ∧
        (run ctx p v).events = before.flatMap (·.events ctx) ++ stop.events ctx ∧
        ((stop.outcome ctx).result = .ok false ∧ (run ctx p v).result = .ok none ∨
          ∃ failure, (stop.outcome ctx).result = .error failure ∧
            (run ctx p v).result = .error failure) := by
  have result := run_result ctx p v
  rw [run_events]
  rcases exists_stop ctx (visits ctx p v) with all | ⟨before, stop, after, split, passed, stops⟩
  · left
    rw [follow_all all] at result ⊢
    exact ⟨all, rfl, map_isSome_eq_true result⟩
  · right
    refine ⟨before, stop, after, split, passed, ?_⟩
    rw [split, follow_stop passed stops] at result ⊢
    refine ⟨rfl, ?_⟩
    unfold Visit.goesOn at stops
    dsimp only at result
    cases ended : (stop.outcome ctx).result with
    | error failure =>
      rw [ended] at result
      exact .inr ⟨failure, rfl, map_eq_error.mp result⟩
    | ok holds =>
      rw [ended] at stops result
      obtain rfl : holds = false := stops
      exact .inl ⟨rfl, map_isSome_eq_false result⟩

/-- A run fails exactly as a visit does that it comes to. -/
theorem run_error_iff {failure : Failure} :
    (run ctx p v).result = .error failure ↔
      ∃ visit, Reaches ctx (visits ctx p v) visit ∧ (visit.outcome ctx).result = .error failure := by
  constructor
  · intro failed
    rcases run_ends ctx p v with
      ⟨-, -, captures, matched⟩ | ⟨before, stop, after, split, passed, -, ended⟩
    · cases failed.symm.trans matched
    · rcases ended with ⟨-, missed⟩ | ⟨other, stopped, raised⟩
      · cases failed.symm.trans missed
      · cases failed.symm.trans raised
        exact ⟨stop, ⟨before, after, split, passed⟩, stopped⟩
  · rintro ⟨visit, ⟨before, after, split, passed⟩, failed⟩
    have stops : visit.goesOn ctx = false := by
      rw [Visit.goesOn, failed]
    have result := run_result ctx p v
    rw [split, follow_stop passed stops, failed] at result
    exact map_eq_error.mp result

/-- A visit finds no extractor of a name exactly if it asks for one that is not registered, unless a
function that is called on it raises the same. -/
theorem Visit.missing_iff {visit : Visit} {name : Text} :
    (visit.outcome ctx).result = .error (.extractorMissing name) ↔
      (∃ value, visit = .extractor name value ∧ ctx.extractors.find? name = none) ∨
        visit.Raises ctx (.extractorMissing name) := by
  cases visit with
  | test holds | sequence items v | mapping items v | className other v =>
    simp [Visit.outcome, Visit.Raises, pure]
  | comparison v literal =>
    rw [Visit.outcome, literalTest]
    cases v.numberEquals literal with
    | error e => simp [Visit.Raises, Traced.map_eq, Traced.fail, Except.map]
    | ok holds =>
      dsimp only
      rw [isSome_test]
      simp [Visit.Raises, pure]
  | components other v | entries v =>
    rw [Visit.outcome, Traced.map_eq]
    simp [Visit.Raises, map_eq_error]
  | extractor other v =>
    rw [Visit.outcome, Traced.map_eq]
    dsimp only
    rw [map_eq_error]
    unfold Extractors.call
    cases found : ctx.extractors.find? other with
    | none =>
      constructor
      · intro missing
        cases missing
        exact .inl ⟨v, rfl, found⟩
      · rintro (⟨value, same, -⟩ | ⟨function, registered, -⟩)
        · cases same
          rfl
        · cases found.symm.trans registered
    | some function =>
      constructor
      · intro raised
        exact .inr ⟨function, found, raised⟩
      · rintro (⟨value, same, missing⟩ | ⟨other, registered, raised⟩)
        · cases same
          cases found.symm.trans missing
        · cases found.symm.trans registered
          exact raised

end Ends

/-! ## Calls of hooks -/

section Calls

variable {ctx : Context}

/-- Whether all events are calls of the functions that a run consults. -/
def OnlyCalls (events : List Event) : Prop := ∀ event ∈ events, event.isCall = true

theorem onlyCalls_nil : OnlyCalls [] := fun _ member => nomatch member

theorem onlyCalls_one {event : Event} (isCall : event.isCall = true) : OnlyCalls [event] := by
  intro other member
  obtain rfl := List.mem_singleton.mp member
  exact isCall

theorem onlyCalls_append {events others : List Event} (first : OnlyCalls events)
    (later : OnlyCalls others) : OnlyCalls (events ++ others) := by
  intro event member
  rcases List.mem_append.mp member with before | behind
  · exact first event before
  · exact later event behind

theorem onlyCalls_bind {α β : Type} {x : Traced α} {f : α → Traced β} (first : OnlyCalls x.events)
    (later : ∀ a, OnlyCalls (f a).events) : OnlyCalls (x >>= f).events := by
  rw [Traced.events_bind]
  apply onlyCalls_append first
  cases x.result with
  | error failure => exact onlyCalls_nil
  | ok a => exact later a

theorem onlyCalls_map {α β : Type} {x : Traced α} {f : α → β} (same : OnlyCalls x.events) :
    OnlyCalls (f <$> x).events := by
  rw [Traced.map_eq]
  exact same

theorem onlyCalls_positional (v : Value) (name : Text) :
    OnlyCalls (ctx.positional v name).events := by
  unfold Context.positional
  split
  · exact onlyCalls_bind (onlyCalls_one rfl) fun _ => onlyCalls_nil
  · split
    · exact onlyCalls_nil
    · split <;> exact onlyCalls_nil

theorem onlyCalls_asFields (v : Value) : OnlyCalls (ctx.asFields v).events := by
  unfold Context.asFields
  dsimp only
  split
  · split <;> exact onlyCalls_nil
  · exact onlyCalls_nil
  · exact onlyCalls_bind (onlyCalls_one rfl) fun _ => onlyCalls_nil
  · split
    · exact onlyCalls_nil
    · apply onlyCalls_bind (onlyCalls_one rfl)
      intro _
      split <;> exact onlyCalls_nil

theorem onlyCalls_keyed (v : Value) : OnlyCalls (ctx.keyed v).events := by
  unfold Context.keyed
  split
  · exact onlyCalls_bind (onlyCalls_one rfl) fun _ => onlyCalls_nil
  · split
    · exact onlyCalls_nil
    · apply onlyCalls_bind (onlyCalls_asFields v)
      intro found
      split <;> exact onlyCalls_nil

theorem onlyCalls_extractor (name : Text) (v : Value) :
    OnlyCalls (ctx.extractors.call name v).events := by
  unfold Extractors.call
  split
  · exact onlyCalls_nil
  · exact onlyCalls_bind (onlyCalls_one rfl) fun _ => onlyCalls_nil

theorem onlyCalls_visit (visit : Visit) : OnlyCalls (visit.events ctx) := by
  unfold Visit.events
  cases visit with
  | test | sequence | mapping | className => exact onlyCalls_nil
  | comparison v literal =>
    apply onlyCalls_map
    unfold literalTest
    split <;> exact onlyCalls_nil
  | components name v => exact onlyCalls_map (onlyCalls_positional v name)
  | entries v => exact onlyCalls_map (onlyCalls_keyed v)
  | extractor name v => exact onlyCalls_map (onlyCalls_extractor name v)

theorem onlyCalls_flatMap (visits : List Visit) : OnlyCalls (visits.flatMap (·.events ctx)) := by
  intro event member
  obtain ⟨visit, -, here⟩ := List.mem_flatMap.mp member
  exact onlyCalls_visit visit event here

/-- A run does nothing that can be seen but call the functions that it consults. -/
theorem onlyCalls_run (p : Pattern) (v : Value) : OnlyCalls (run ctx p v).events := by
  rcases run_ends ctx p v with ⟨-, events, -⟩ | ⟨before, stop, after, -, -, events, -⟩
  · rw [events]
    exact onlyCalls_flatMap _
  · rw [events]
    exact onlyCalls_append (onlyCalls_flatMap before) (onlyCalls_visit stop)

end Calls

end Matching

namespace Pattern.Parser

open Matching

/-- The order in which a pattern that is read from text is evaluated. It compiles whatever
extractors there are. A run makes the visits of its tree from left to right and into the depth, as
far as each lets it go on; the first that does not ends it. What a rest holds is visited for each
element of its span, between the items around it; only what belongs to a class is asked for its
components; and an extractor is missing exactly where the run comes to one that is not registered. -/
theorem evaluation_order {text : Text} {tree : Pattern} (read : parse text = .ok tree) :
    ∃ procedure, Procedure.ofText text = .ok procedure ∧
      ∀ (ctx : Context) (arguments : List Value),
        let made := visits ctx tree (.tuple arguments)
        let ran := procedure.run ctx arguments
        (((∀ visit ∈ made, visit.goesOn ctx = true) ∧
            ran.events = made.flatMap (·.events ctx) ∧
            ∃ captures, ran.result = .ok (some captures)) ∨
          ∃ before stop after, made = before ++ stop :: after ∧
            (∀ visit ∈ before, visit.goesOn ctx = true) ∧
            ran.events = before.flatMap (·.events ctx) ++ stop.events ctx ∧
            ((stop.outcome ctx).result = .ok false ∧ ran.result = .ok none ∨
              ∃ failure, (stop.outcome ctx).result = .error failure ∧
                ran.result = .error failure)) ∧
        OnlyCalls ran.events ∧
        (∀ visit, Reaches ctx made visit → visit.Justified ctx) ∧
        (∀ head inner tail front span back,
          (∀ item ∈ head ++ tail, item.isRest = false) → front.length = head.length →
          back.length = tail.length →
          itemVisits ctx (head ++ .rest inner :: tail) (front ++ (span ++ back)) =
            (List.zipWith (visits ctx) head front).flatten ++
              (span.flatMap (visits ctx inner) ++
                (List.zipWith (visits ctx) tail back).flatten)) ∧
        ∀ name, ran.result = .error (.extractorMissing name) ↔
          (∃ value, Reaches ctx made (.extractor name value) ∧
            ctx.extractors.find? name = none) ∨
          ∃ visit, Reaches ctx made visit ∧ visit.Raises ctx (.extractorMissing name) := by
  obtain ⟨procedure, ofText, compiles⟩ := Procedure.exists_ofText read
  refine ⟨procedure, ofText, fun ctx arguments => ?_⟩
  dsimp only
  rw [Procedure.run_ofTree read compiles]
  refine ⟨run_ends ctx tree _, onlyCalls_run tree _,
    fun visit reached => (visits_safe tree _).justified reached, ?_, ?_⟩
  · intro head inner tail front span back noRest before behind
    exact itemVisits_span noRest before behind
  · intro name
    rw [run_error_iff]
    constructor
    · rintro ⟨visit, reached, failed⟩
      rcases Visit.missing_iff.mp failed with ⟨value, rfl, missing⟩ | raised
      · exact .inl ⟨value, reached, missing⟩
      · exact .inr ⟨visit, reached, raised⟩
    · rintro (⟨value, reached, missing⟩ | ⟨visit, reached, raised⟩)
      · exact ⟨_, reached, Visit.missing_iff.mpr (.inl ⟨value, rfl, missing⟩)⟩
      · exact ⟨visit, reached, Visit.missing_iff.mpr (.inr raised)⟩

/-- An extractor that is not registered is missed only where a run comes to it: behind a value of
another class it is not, and behind a value of the class, whose hook is asked first, it is; one that
is there is called then. -/
theorem evaluation_order_unregistered :
    let point := Text.ofString "P"
    let name := Text.ofString "a"
    let classes := ClassTable.declare .empty
      { name := point, base? := none, layout? := none, isData := false, fields := []
        secondName := none, matchArgs := none, omitsMatchArgs := false, isCallable := false
        positionalHook := some (some fun _ _ => .ok (.list [])), keyedHook := none
        asFields := none }
    let refusing : Extractor := ⟨Text.ofString "no", fun _ => .ok .null⟩
    let bare : Context := ⟨classes, .empty, none⟩
    let filled : Context := ⟨classes, ⟨[(name, refusing)]⟩, none⟩
    let v : Value := .record point []
    ∃ procedure, Procedure.ofText (Text.ofString "P(),$a") = .ok procedure ∧ ∀ w,
      procedure.run bare [.null, w] = ⟨[], .ok none⟩ ∧
        procedure.run bare [v, w] = ⟨[.componentsAsked v], .error (.extractorMissing name)⟩ ∧
        procedure.run filled [v, w] =
          ⟨[.componentsAsked v, .extractorCalled name refusing.title w], .ok none⟩ := by
  intro point name classes refusing bare filled v
  have read : parse (Text.ofString "P(),$a") =
      .ok (.argumentList [.tagArray point [], .extractor name]) := rfl
  obtain ⟨procedure, ofText, runs⟩ := evaluation_order read
  have ends : ∀ (ctx : Context) (arguments : List Value) (before : List Visit) (stop : Visit)
      (after : List Visit),
      visits ctx (.argumentList [.tagArray point [], .extractor name]) (.tuple arguments) =
        before ++ stop :: after →
      before.all (·.goesOn ctx) = true → stop.goesOn ctx = false →
      procedure.run ctx arguments =
        ⟨before.flatMap (·.events ctx) ++ stop.events ctx,
          (stop.outcome ctx).result.map fun _ => none⟩ := by
    intro ctx arguments before stop after split passed stops
    rw [List.all_eq_true] at passed
    obtain ⟨⟨all, -, -⟩ | ⟨others, other, behind, splitToo, passedToo, events, ended⟩, -⟩ :=
      runs ctx arguments
    · have goesOn := all stop (split ▸ List.mem_append_right before List.mem_cons_self)
      cases goesOn.symm.trans stops
    · have stopsToo : other.goesOn ctx = false := by
        rcases ended with ⟨missed, -⟩ | ⟨failure, failed, -⟩
        · rw [Visit.goesOn, missed]
        · rw [Visit.goesOn, failed]
      obtain ⟨rfl, rfl⟩ :=
        stop_unique (split.symm.trans splitToo) passed stops passedToo stopsToo
      rcases ended with ⟨missed, none⟩ | ⟨failure, failed, raised⟩
      · rw [missed, ← events]
        exact congrArg (Traced.mk _) none
      · rw [failed, ← events]
        exact congrArg (Traced.mk _) raised
  refine ⟨procedure, ofText, fun w => ⟨?_, ?_, ?_⟩⟩
  · exact ends bare [.null, w] [.sequence _ _] (.className point .null) _ rfl rfl rfl
  · exact ends bare [v, w] [.sequence _ _, .className point v, .components point v, .sequence [] _]
      (.extractor name w) [] rfl rfl rfl
  · exact ends filled [v, w]
      [.sequence _ _, .className point v, .components point v, .sequence [] _]
      (.extractor name w) [] rfl rfl rfl

end Pattern.Parser

end PatternDispatch
