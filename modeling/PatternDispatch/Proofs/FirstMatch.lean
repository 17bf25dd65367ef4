import PatternDispatch.Log
import PatternDispatch.Proofs.DispatcherBuild
import PatternDispatch.Proofs.EvaluationOrder

/-!
The first match wins. A dispatcher asks the rules of its alternatives in order, on the same
arguments, until one answers captures or fails. Only the callback of that one is called, and what it
does is the outcome, whatever that is.
-/

namespace PatternDispatch

variable {κ : Type}

namespace Chain

/-! ## Attempts -/

/-- A rule that was asked and answered. -/
structure Attempt where
  position : Nat
  title : Text
  matched : Bool

def Attempt.event (a : Attempt) : Event := .alternativeTried a.position a.title a.matched

/-- The wording of an attempt in the log. -/
def Attempt.line (a : Attempt) : Text :=
  Text.ofString "alternative " ++ Text.ofNat a.position ++ Text.ofString " (" ++ a.title ++
    Text.ofString (if a.matched then ") matched" else ") failed")

section Attempts

variable (ctx : Context) (arguments : List Value)

/-- Whether an alternative lets the next one try. -/
def Refuses (alternative : Alternative κ) : Prop :=
  (alternative.rule.run ctx arguments).result = .ok none

/-- The attempts at alternatives that refuse. -/
def refusals (position : Nat) (alternatives : List (Alternative κ)) : List Attempt :=
  (alternatives.zipIdx position).map fun entry => ⟨entry.2, entry.1.rule.title, false⟩

/-- What happens while alternatives refuse one after the other. -/
def passed (position : Nat) (alternatives : List (Alternative κ)) : List Event :=
  (alternatives.zipIdx position).flatMap fun entry =>
    (entry.1.rule.run ctx arguments).events ++
      [.alternativeTried entry.2 entry.1.rule.title false]

theorem passed_cons (position : Nat) (alternative : Alternative κ)
    (others : List (Alternative κ)) : passed ctx arguments position (alternative :: others) =
      (alternative.rule.run ctx arguments).events ++
        .alternativeTried position alternative.rule.title false ::
          passed ctx arguments (position + 1) others := by
  rw [passed, List.zipIdx_cons, List.flatMap_cons, List.append_assoc]
  rfl

theorem passed_cons_append (position : Nat) (alternative : Alternative κ)
    (others : List (Alternative κ)) (rest : List Event) :
    (alternative.rule.run ctx arguments).events ++
        .alternativeTried position alternative.rule.title false ::
          (passed ctx arguments (position + 1) others ++ rest) =
      passed ctx arguments position (alternative :: others) ++ rest := by
  rw [passed_cons, List.append_assoc, List.cons_append]

/-- What happens when an alternative answers captures, up to the call of its callback. -/
def taken (position : Nat) (alternative : Alternative κ) (captures : List Value) : List Event :=
  (alternative.rule.run ctx arguments).events ++
    [.alternativeTried position alternative.rule.title true, .callbackCalled position captures]

end Attempts

variable {ctx : Context} {call : Calls κ} {arguments : List Value}

/-! ## Courses -/

/-- How trying alternatives from a position on can go. The events of the chain itself and its
attempts stand beside the whole run. -/
inductive Course (ctx : Context) (call : Calls κ) (arguments : List Value) (position : Nat)
    (alternatives : List (Alternative κ)) : List Event → List Attempt → Traced Value → Prop where
  | exhausted (refused : ∀ one ∈ alternatives, Refuses ctx arguments one) :
      Course ctx call arguments position alternatives (passed ctx arguments position alternatives)
        (refusals position alternatives)
        ⟨passed ctx arguments position alternatives, .error (.exhausted arguments)⟩
  | raised {before after : List (Alternative κ)} {alternative : Alternative κ} {failure : Failure}
      (split : alternatives = before ++ alternative :: after)
      (refused : ∀ one ∈ before, Refuses ctx arguments one)
      (failed : (alternative.rule.run ctx arguments).result = .error failure) :
      Course ctx call arguments position alternatives
        (passed ctx arguments position before ++ (alternative.rule.run ctx arguments).events)
        (refusals position before)
        ⟨passed ctx arguments position before ++ (alternative.rule.run ctx arguments).events,
          .error failure⟩
  | matched {before after : List (Alternative κ)} {alternative : Alternative κ}
      {captures : List Value} (split : alternatives = before ++ alternative :: after)
      (refused : ∀ one ∈ before, Refuses ctx arguments one)
      (found : (alternative.rule.run ctx arguments).result = .ok (some captures)) :
      Course ctx call arguments position alternatives
        (passed ctx arguments position before ++
          taken ctx arguments (position + before.length) alternative captures)
        (refusals position before ++
          [⟨position + before.length, alternative.rule.title, true⟩])
        ⟨passed ctx arguments position before ++
            taken ctx arguments (position + before.length) alternative captures ++
            (call alternative.callback captures).events,
          (call alternative.callback captures).result⟩

section Steps

variable {alternative : Alternative κ} {others : List (Alternative κ)} {position : Nat}

theorem tryFrom_refused (refuses : Refuses ctx arguments alternative) :
    tryFrom ctx call arguments position (alternative :: others) =
      ⟨(alternative.rule.run ctx arguments).events ++
        .alternativeTried position alternative.rule.title false ::
          (tryFrom ctx call arguments (position + 1) others).events,
        (tryFrom ctx call arguments (position + 1) others).result⟩ := by
  unfold Refuses at refuses
  rw [tryFrom]
  generalize alternative.rule.run ctx arguments = ran at refuses
  obtain ⟨events, result⟩ := ran
  subst refuses
  rfl

theorem tryFrom_failed {failure : Failure}
    (failed : (alternative.rule.run ctx arguments).result = .error failure) :
    tryFrom ctx call arguments position (alternative :: others) =
      ⟨(alternative.rule.run ctx arguments).events, .error failure⟩ := by
  rw [tryFrom]
  generalize alternative.rule.run ctx arguments = ran at failed
  obtain ⟨events, result⟩ := ran
  subst failed
  rfl

theorem tryFrom_matched {captures : List Value}
    (found : (alternative.rule.run ctx arguments).result = .ok (some captures)) :
    tryFrom ctx call arguments position (alternative :: others) =
      ⟨taken ctx arguments position alternative captures ++
          (call alternative.callback captures).events,
        (call alternative.callback captures).result⟩ := by
  rw [tryFrom, taken]
  generalize alternative.rule.run ctx arguments = ran at found
  obtain ⟨events, result⟩ := ran
  subst found
  rw [List.append_assoc]
  rfl

/-- An alternative that refuses stands in front of what the others do. -/
theorem Course.skip {own : List Event} {attempts : List Attempt} {run : Traced Value}
    (course : Course ctx call arguments (position + 1) others own attempts run)
    (refuses : Refuses ctx arguments alternative) :
    Course ctx call arguments position (alternative :: others)
      ((alternative.rule.run ctx arguments).events ++
        .alternativeTried position alternative.rule.title false :: own)
      (⟨position, alternative.rule.title, false⟩ :: attempts)
      ⟨(alternative.rule.run ctx arguments).events ++
        .alternativeTried position alternative.rule.title false :: run.events, run.result⟩ := by
  have both {before : List (Alternative κ)}
      (refused : ∀ one ∈ before, Refuses ctx arguments one) :
      ∀ one ∈ alternative :: before, Refuses ctx arguments one :=
    List.forall_mem_cons.mpr ⟨refuses, refused⟩
  cases course with
  | exhausted refused =>
    rw [← passed_cons]
    exact .exhausted (both refused)
  | @raised before after stop failure split refused failed =>
    rw [passed_cons_append]
    exact .raised (congrArg (alternative :: ·) split) (both refused) failed
  | @matched before after stop captures split refused found =>
    have place : position + 1 + before.length = position + (alternative :: before).length := by
      rw [List.length_cons]
      omega
    rw [place, passed_cons_append, List.append_assoc, passed_cons_append, ← List.append_assoc]
    exact .matched (congrArg (alternative :: ·) split) (both refused) found

end Steps

/-- The first alternative that does not refuse decides, and if all refuse, none does. -/
theorem course_tryFrom (position : Nat) (alternatives : List (Alternative κ)) :
    ∃ own attempts, Course ctx call arguments position alternatives own attempts
      (tryFrom ctx call arguments position alternatives) := by
  -- Only an alternative that refuses lets the others try, one position further on.
  induction alternatives generalizing position with
  | nil => exact ⟨_, _, .exhausted fun _ member => nomatch member⟩
  | cons alternative others ih =>
    cases answer : (alternative.rule.run ctx arguments).result with
    | error failure =>
      rw [tryFrom_failed answer]
      exact ⟨_, _, .raised (List.nil_append _).symm (fun _ member => nomatch member) answer⟩
    | ok found =>
      cases found with
      | none =>
        obtain ⟨own, attempts, course⟩ := ih (position + 1)
        rw [tryFrom_refused answer]
        exact ⟨_, _, course.skip answer⟩
      | some captures =>
        rw [tryFrom_matched answer]
        exact ⟨_, _, .matched (List.nil_append _).symm (fun _ member => nomatch member) answer⟩

/-! ## The log -/

/-- A rule writes nothing to the log. -/
theorem log_rule (tracing : Bool) (rule : Rule) :
    Event.log tracing (rule.run ctx arguments).events = [] := by
  rw [Event.log, List.filterMap_eq_nil_iff]
  intro event member
  cases rule with
  | compiled procedure =>
    have isCall := Matching.onlyCalls_run (.argumentList procedure.items) (.tuple arguments)
      event member
    cases event with
    | extractorCalled | componentsAsked | entriesAsked | fieldsAsked => rfl
    | _ => cases isCall
  | byHand procedure =>
    have called : (Rule.run ctx arguments (.byHand procedure)).events =
        [.procedureCalled procedure.name arguments] := by
      rw [Rule.run, Traced.events_bind]
      rfl
    rw [called, List.mem_singleton] at member
    subst member
    rfl

theorem log_append (tracing : Bool) (events others : List Event) :
    Event.log tracing (events ++ others) = Event.log tracing events ++ Event.log tracing others :=
  List.filterMap_append

/-- The lines of attempts, of which there are none unless tracing is on. -/
def lines (tracing : Bool) (attempts : List Attempt) : List Text :=
  if tracing then attempts.map Attempt.line else []

theorem lines_append (tracing : Bool) (attempts others : List Attempt) :
    lines tracing (attempts ++ others) = lines tracing attempts ++ lines tracing others := by
  cases tracing with
  | true => exact List.map_append
  | false => rfl

theorem log_attempt (tracing : Bool) (a : Attempt) :
    Event.log tracing [a.event] = lines tracing [a] := by
  cases tracing with
  | true => rfl
  | false => rfl

theorem log_passed (tracing : Bool) (position : Nat) (alternatives : List (Alternative κ)) :
    Event.log tracing (passed ctx arguments position alternatives) =
      lines tracing (refusals position alternatives) := by
  induction alternatives generalizing position with
  | nil => cases tracing <;> rfl
  | cons alternative others ih =>
    have own := log_attempt tracing ⟨position, alternative.rule.title, false⟩
    have split : refusals position (alternative :: others) =
        [⟨position, alternative.rule.title, false⟩] ++ refusals (position + 1) others := by
      rw [refusals, List.zipIdx_cons]
      rfl
    rw [passed_cons, split, lines_append, ← own, ← ih, ← List.singleton_append, log_append,
      log_append, log_rule, List.nil_append]
    rfl

theorem Course.log {position : Nat} {alternatives : List (Alternative κ)} {own : List Event}
    {attempts : List Attempt} {run : Traced Value}
    (course : Course ctx call arguments position alternatives own attempts run) (tracing : Bool) :
    Event.log tracing own = lines tracing attempts := by
  cases course with
  | exhausted refused => exact log_passed tracing position alternatives
  | @raised before _ _ _ _ _ _ =>
    rw [log_append, log_rule, List.append_nil]
    exact log_passed tracing position before
  | @matched before _ stop captures _ _ _ =>
    have attempt := log_attempt tracing ⟨position + before.length, stop.rule.title, true⟩
    have called : Event.log tracing [.callbackCalled (position + before.length) captures] = [] := rfl
    rw [log_append, lines_append, log_passed, taken, log_append, log_rule, List.nil_append,
      ← attempt, ← List.singleton_append, log_append, called, List.append_nil]
    rfl

theorem length_refusals (position : Nat) (alternatives : List (Alternative κ)) :
    (refusals position alternatives).length = alternatives.length := by
  rw [refusals, List.length_map, List.length_zipIdx]

theorem positions_refusals (position : Nat) (alternatives : List (Alternative κ)) :
    (refusals position alternatives).map (·.position) =
      List.range' position alternatives.length := by
  rw [refusals, List.map_map]
  exact List.zipIdx_map_snd position alternatives

/-- Attempts are numbered in order, without a gap. -/
theorem Course.positions {position : Nat} {alternatives : List (Alternative κ)}
    {own : List Event} {attempts : List Attempt} {run : Traced Value}
    (course : Course ctx call arguments position alternatives own attempts run) :
    attempts.map (·.position) = List.range' position attempts.length := by
  cases course with
  | exhausted refused => rw [positions_refusals, length_refusals]
  | raised split refused failed => rw [positions_refusals, length_refusals]
  | matched split refused found =>
    rw [List.map_append, positions_refusals, List.length_append, length_refusals,
      List.length_singleton, List.range'_1_concat]
    rfl

/-! ## Alternatives behind others -/

theorem tryFrom_append_of_decided {alternatives others : List (Alternative κ)} (position : Nat)
    (decided : ∃ one ∈ alternatives, ¬Refuses ctx arguments one) :
    tryFrom ctx call arguments position (alternatives ++ others) =
      tryFrom ctx call arguments position alternatives := by
  induction alternatives generalizing position with
  | nil =>
    obtain ⟨one, member, -⟩ := decided
    cases member
  | cons alternative rest ih =>
    rw [List.cons_append]
    cases answer : (alternative.rule.run ctx arguments).result with
    | error failure => rw [tryFrom_failed answer, tryFrom_failed answer]
    | ok found =>
      cases found with
      | some captures => rw [tryFrom_matched answer, tryFrom_matched answer]
      | none =>
        obtain ⟨one, member, decides⟩ := decided
        obtain rfl | later := List.mem_cons.mp member
        · exact absurd answer decides
        · rw [tryFrom_refused answer, tryFrom_refused answer, ih _ ⟨one, later, decides⟩]

theorem tryFrom_append_of_refused {alternatives others : List (Alternative κ)} (position : Nat)
    (refused : ∀ one ∈ alternatives, Refuses ctx arguments one) :
    tryFrom ctx call arguments position (alternatives ++ others) =
      ⟨passed ctx arguments position alternatives ++
          (tryFrom ctx call arguments (position + alternatives.length) others).events,
        (tryFrom ctx call arguments (position + alternatives.length) others).result⟩ := by
  induction alternatives generalizing position with
  | nil => rfl
  | cons alternative rest ih =>
    rw [List.forall_mem_cons] at refused
    have place : position + 1 + rest.length = position + (alternative :: rest).length := by
      rw [List.length_cons]
      omega
    rw [List.cons_append, tryFrom_refused refused.1, ih _ refused.2, place, passed_cons_append]

/-- What comes of trying alternatives does not depend on where they stand. -/
theorem result_tryFrom (position other : Nat) (alternatives : List (Alternative κ)) :
    (tryFrom ctx call arguments position alternatives).result =
      (tryFrom ctx call arguments other alternatives).result := by
  induction alternatives generalizing position other with
  | nil => rfl
  | cons alternative rest ih =>
    cases answer : (alternative.rule.run ctx arguments).result with
    | error failure => rw [tryFrom_failed answer, tryFrom_failed answer]
    | ok found =>
      cases found with
      | some captures => rw [tryFrom_matched answer, tryFrom_matched answer]
      | none =>
        rw [tryFrom_refused answer, tryFrom_refused answer]
        exact ih _ _

end Chain

namespace Environment

open Chain (Course Refuses lines passed)

/-- A dispatcher takes the first alternative that does not refuse and no other, logs one line for
every rule that answered, and behind the alternatives of another one it does what it does alone. -/
theorem first_match_wins (call : Calls κ) (arguments : List Value) :
    (∀ (c : Chain κ) (env : Environment),
      (dispatch call c arguments env).state = env ∧
      ∃ own attempts, Course env.context call arguments 0 c.alternatives own attempts
          (dispatch call c arguments env).outcome ∧
        attempts.map (·.position) = List.range attempts.length ∧
        ∀ tracing, Event.log tracing own = lines tracing attempts) ∧
    ∀ (c other : Chain κ) (env : Environment),
      ∃ links events made, alt c (.source (.dispatcher other)) .nothing env =
          ⟨{ env with links := links }, events, .ok made⟩ ∧
        ∀ later : Environment,
          ((∃ one ∈ c.alternatives, ¬Refuses later.context arguments one) →
            (dispatch call made arguments later).outcome =
              (dispatch call c arguments later).outcome) ∧
          ((∀ one ∈ c.alternatives, Refuses later.context arguments one) →
            ∃ own attempts rest, Course later.context call arguments c.alternatives.length
                other.alternatives own attempts rest ∧
              rest.result = (dispatch call other arguments later).outcome.result ∧
              (dispatch call made arguments later).outcome =
                ⟨passed later.context arguments 0 c.alternatives ++ rest.events, rest.result⟩) := by
  constructor
  · intro c env
    obtain ⟨own, attempts, course⟩ :=
      @Chain.course_tryFrom κ env.context call arguments 0 c.alternatives
    refine ⟨rfl, own, attempts, course, ?_, course.log⟩
    rw [course.positions, List.range_eq_range']
  · intro c other env
    obtain ⟨links, events, made, ran, whole⟩ := alt_dispatcher c other env
    refine ⟨links, events, made, ran, fun later => ⟨?_, ?_⟩⟩
    · intro decided
      rw [outcome_dispatch, outcome_dispatch, Chain.run, Chain.run, whole]
      exact Chain.tryFrom_append_of_decided 0 decided
    · intro refused
      obtain ⟨own, attempts, course⟩ := @Chain.course_tryFrom κ later.context call arguments
        c.alternatives.length other.alternatives
      refine ⟨own, attempts, _, course, Chain.result_tryFrom _ _ _, ?_⟩
      rw [outcome_dispatch, Chain.run, whole, Chain.tryFrom_append_of_refused 0 refused,
        Nat.zero_add]

/-- A dispatcher that refuses passes on to the one behind it, whose first rule answers no captures
at all and is taken for that. -/
theorem first_match_wins_behind :
    let refusing : Rule := .byHand ⟨Text.ofString "a", fun _ => .ok none⟩
    let taking : Rule := .byHand ⟨Text.ofString "b", fun _ => .ok (some [])⟩
    let c : Chain Nat := ⟨[⟨0, refusing, 0⟩], List.cons_ne_nil _ _⟩
    let other : Chain Nat := ⟨[⟨1, taking, 1⟩, ⟨2, taking, 2⟩], List.cons_ne_nil _ _⟩
    let env : Environment := ofContext ⟨.empty, ⟨[]⟩, none⟩
    let call : Calls Nat := fun n _ => ⟨[], .ok (.bool (n == 1))⟩
    (∀ one ∈ c.alternatives, Refuses env.context [] one) ∧
      ∃ made, (alt c (.source (.dispatcher other)) .nothing env).outcome.result = .ok made ∧
        (dispatch call made [] env).outcome.result = .ok (.bool true) := by
  intro refusing taking c other env call
  have refused : ∀ one ∈ c.alternatives, Refuses env.context [] one := by
    intro one member
    obtain rfl := List.mem_singleton.mp member
    rfl
  refine ⟨refused, ?_⟩
  obtain ⟨links, events, made, ran, later⟩ := (first_match_wins call []).2 c other env
  refine ⟨made, by rw [ran], ?_⟩
  obtain ⟨own, attempts, rest, -, alone, whole⟩ := (later env).2 refused
  rw [whole, alone]
  rfl

example :
    let refusing : Rule := .byHand ⟨Text.ofString "a", fun _ => .ok none⟩
    let taking : Rule := .byHand ⟨Text.ofString "b", fun _ => .ok (some [])⟩
    let c : Chain Nat := ⟨[⟨0, refusing, 0⟩, ⟨1, taking, 1⟩, ⟨2, taking, 2⟩], List.cons_ne_nil _ _⟩
    let ran := c.run ⟨.empty, ⟨[]⟩, none⟩ (fun _ captures => ⟨[], .ok (.tuple captures)⟩) []
    Event.log true ran.events = [Text.ofString "alternative 0 (<proc a>) failed",
      Text.ofString "alternative 1 (<proc b>) matched"] := by
  decide +kernel

end Environment

end PatternDispatch
