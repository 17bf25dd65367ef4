import PatternDispatch.Environment
import PatternDispatch.Proofs.CacheSteps
import PatternDispatch.Proofs.ChainLaws

/-!
Building dispatchers. Whatever a definition is, a text, a procedure, a dispatcher or a mapping of
these, building from it puts the alternatives it stands for behind those of the given chain, and
leaves alone what was built before.
-/

namespace PatternDispatch

open Pattern.Parser (parse)

variable {κ : Type}

/-! ## What definitions stand for -/

/-- A source together with a callback that an alternative can be built from. -/
inductive Source.Usable (classes : ClassTable) : Source κ → Offer κ → Prop where
  | text {v : Value} {text : Text} {tree : Pattern} {callback : κ} (isText : v.text? = some text)
      (read : parse text = .ok tree) : Usable classes (.value v) (.function callback)
  | callable {v : Value} {callback : κ} (noText : v.text? = none)
      (callable : v.isCallable classes = true) : Usable classes (.value v) (.function callback)
  | procedure {procedure : HandProcedure} {callback : κ} :
      Usable classes (.procedure procedure) (.function callback)
  | dispatcher {chain : Chain κ} : Usable classes (.dispatcher chain) .nothing

inductive Definition.Usable (classes : ClassTable) : Definition κ → Offer κ → Prop where
  | source {source : Source κ} {callback : Offer κ} (usable : source.Usable classes callback) :
      Usable classes (.source source) callback
  | mapping {entries : List (Source κ × Offer κ)} (nonempty : entries ≠ [])
      (usable : ∀ entry ∈ entries, entry.1.Usable classes entry.2) :
      Usable classes (.mapping entries) .nothing

/-- The alternatives that a source stands for, of which a text is compiled in a cache. -/
inductive Source.Yields (classes : ClassTable) (cache : Cache) :
    Source κ → Offer κ → Cache → List (Alternative κ) → Prop where
  | text {v : Value} {text : Text} {callback : κ} {next : Cache} {events : List Event}
      {compiled : Compiled} (isText : v.text? = some text)
      (compiles : Cache.compile text cache = ⟨next, events, .ok compiled⟩) :
      Yields classes cache (.value v) (.function callback) next
        [⟨.compiled compiled.procedure, callback⟩]
  | callable {v : Value} {callback : κ} (noText : v.text? = none)
      (callable : v.isCallable classes = true) :
      Yields classes cache (.value v) (.function callback) cache
        [⟨.byHand (HandProcedure.ofValue classes v), callback⟩]
  | procedure {procedure : HandProcedure} {callback : κ} :
      Yields classes cache (.procedure procedure) (.function callback) cache
        [⟨.byHand procedure, callback⟩]
  | dispatcher {chain : Chain κ} :
      Yields classes cache (.dispatcher chain) .nothing cache chain.alternatives

/-- The alternatives of entries, one after the other. -/
inductive Definition.EntriesYield (classes : ClassTable) :
    Cache → List (Source κ × Offer κ) → Cache → List (Alternative κ) → Prop where
  | nil {cache : Cache} : EntriesYield classes cache [] cache []
  | cons {cache between next : Cache} {source : Source κ} {callback : Offer κ}
      {entries : List (Source κ × Offer κ)} {alternatives others : List (Alternative κ)}
      (first : source.Yields classes cache callback between alternatives)
      (rest : EntriesYield classes between entries next others) :
      EntriesYield classes cache ((source, callback) :: entries) next (alternatives ++ others)

inductive Definition.Yields (classes : ClassTable) (cache : Cache) :
    Definition κ → Offer κ → Cache → List (Alternative κ) → Prop where
  | source {source : Source κ} {callback : Offer κ} {next : Cache}
      {alternatives : List (Alternative κ)}
      (yields : source.Yields classes cache callback next alternatives) :
      Yields classes cache (.source source) callback next alternatives
  | mapping {entries : List (Source κ × Offer κ)} {next : Cache}
      {alternatives : List (Alternative κ)}
      (yields : EntriesYield classes cache entries next alternatives) :
      Yields classes cache (.mapping entries) .nothing next alternatives

namespace Environment

variable {chain : Option (Chain κ)} {env : Environment}

/-! ## One source -/

/-- How building behind a chain can go. What was given is refused only if it is not usable. -/
inductive Building (chain : Option (Chain κ)) (env : Environment) (usable : Prop)
    (yields : Cache → List (Alternative κ) → Prop) : Ran Environment (Chain κ) → Prop where
  | built {cache : Cache} {links : Nat} {events : List Event} {made : Chain κ}
      {alternatives : List (Alternative κ)} (yielded : yields cache alternatives)
      (whole : made.alternatives = Chain.listed chain ++ alternatives)
      (woven : Chain.Woven env.links links [] made) :
      Building chain env usable yields ⟨⟨env.context, cache, links⟩, events, .ok made⟩
  | refused {cache : Cache} {links : Nat} {events : List Event} {failure : Failure}
      (faulty : ¬usable) (order : env.links ≤ links) :
      Building chain env usable yields ⟨⟨env.context, cache, links⟩, events, .error failure⟩

theorem onLinks_of_ok {α : Type} {step : Action Nat α} {links : Nat} {a : α}
    (ran : step env.links = ⟨links, [], .ok a⟩) :
    onLinks step env = ⟨{ env with links := links }, [], .ok a⟩ := by
  unfold onLinks Action.onPart
  rw [ran]

theorem build_spec (chain : Option (Chain κ)) (alternative : Alternative κ) (env : Environment) :
    ∃ links made, build chain alternative env =
        ⟨{ env with links := links }, [.dispatcherBuilt made.length], .ok made⟩ ∧
      made.alternatives = Chain.listed chain ++ [alternative] ∧
      Chain.Woven env.links links [] made := by
  cases chain with
  | none =>
    obtain ⟨links, made, ran, whole, woven⟩ := Chain.single_spec alternative env.links
    refine ⟨links, made, ?_, whole, woven⟩
    exact Action.bind_of_ok (onLinks_of_ok ran) _
  | some c =>
    obtain ⟨links, made, ran, whole, woven⟩ := c.extend_spec alternative env.links
    refine ⟨links, made, ?_, whole, woven⟩
    exact Action.bind_of_ok (onLinks_of_ok ran) _

/-- Taking a chain apart and building it again from its last alternative. -/
theorem rebuild_spec (c : Chain κ) (env : Environment) :
    ∃ links made, (onLinks c.pop >>= fun popped =>
        build popped.1 (popped.2.links.head popped.2.nonempty).alternative) env =
        ⟨{ env with links := links }, [.dispatcherBuilt made.length], .ok made⟩ ∧
      made.alternatives = c.alternatives ∧ Chain.Woven env.links links [] made := by
  obtain ⟨between, front, ran, others, order, -⟩ := c.pop_spec env.links
  have alone : [(c.last.links.head c.last.nonempty).alternative] = c.last.alternatives := rfl
  obtain ⟨links, made, ranBuild, whole, woven⟩ := build_spec front
    (c.last.links.head c.last.nonempty).alternative { env with links := between }
  refine ⟨links, made, ?_, ?_, woven.mono order⟩
  · rw [Action.bind_of_ok (onLinks_of_ok ran), ranBuild]
    rfl
  · rw [whole, others, alone, Chain.alternatives_last]
    exact List.dropLast_concat_getLast c.alternatives_ne_nil

/-- Splicing always succeeds, and shares no link with the dispatcher that is spliced in. -/
theorem splice_spec (chain : Option (Chain κ)) (other : Chain κ) (env : Environment) :
    ∃ links made, splice chain other env =
        ⟨{ env with links := links }, [.dispatcherBuilt made.length], .ok made⟩ ∧
      made.alternatives = Chain.listed chain ++ other.alternatives ∧
      Chain.Woven env.links links [] made := by
  cases chain with
  | none =>
    have ran : (pure other : Action Nat (Chain κ)) env.links = ⟨env.links, [], .ok other⟩ := rfl
    obtain ⟨links, made, ranBuild, whole, woven⟩ := rebuild_spec other env
    refine ⟨links, made, ?_, whole, woven⟩
    exact (Action.bind_of_ok (onLinks_of_ok ran) _).trans (by rw [← ranBuild]; rfl)
  | some c =>
    obtain ⟨between, combined, ran, joined, wovenJoined⟩ := c.append_spec other env.links
    obtain ⟨links, made, ranBuild, whole, woven⟩ :=
      rebuild_spec combined { env with links := between }
    refine ⟨links, made, ?_, whole.trans joined, woven.mono wovenJoined.ordered⟩
    exact (Action.bind_of_ok (onLinks_of_ok ran) _).trans (by rw [← ranBuild]; rfl)

theorem compile_of_cache {text : Text} {next : Cache} {events : List Event}
    {result : Except Failure Compiled}
    (ran : Cache.compile text env.cache = ⟨next, events, result⟩) :
    compile text env = ⟨{ env with cache := next }, events, result⟩ := by
  unfold compile onCache Action.onPart
  rw [ran]

theorem ruleOf_text {v : Value} {text : Text} (isText : v.text? = some text)
    (env : Environment) : ruleOf (.value v : Source κ) env =
      (compile text >>= fun compiled => pure (.compiled compiled.procedure)) env := by
  have started : (Action.state : Action Environment Environment) env = ⟨env, [], .ok env⟩ := rfl
  simp only [ruleOf]
  rw [Action.bind_of_ok started, isText]
  rfl

theorem ruleOf_plain {v : Value} (noText : v.text? = none) (env : Environment) :
    ruleOf (.value v : Source κ) env =
      if v.isCallable env.context.classes then
        ⟨env, [], .ok (.byHand (HandProcedure.ofValue env.context.classes v))⟩
      else ⟨env, [], .error (.notASource v.typeName)⟩ := by
  have started : (Action.state : Action Environment Environment) env = ⟨env, [], .ok env⟩ := rfl
  simp only [ruleOf]
  rw [Action.bind_of_ok started, noText]
  dsimp only
  split
  · rfl
  · rfl

/-- A value is made a rule unless it is neither a readable text nor can be called. -/
theorem ruleOf_value (v : Value) (callback : κ) (env : Environment) :
    (∃ next events rule, ruleOf (.value v : Source κ) env =
        ⟨{ env with cache := next }, events, .ok rule⟩ ∧
      (Source.value v).Yields env.context.classes env.cache (.function callback) next
        [⟨rule, callback⟩]) ∨
    ∃ next events failure, ruleOf (.value v : Source κ) env =
        ⟨{ env with cache := next }, events, .error failure⟩ ∧
      ¬(Source.value v).Usable env.context.classes (.function callback) := by
  cases isText : v.text? with
  | some text =>
    rw [ruleOf_text isText]
    cases ran : Cache.compile text env.cache with
    | mk next outcome =>
      obtain ⟨events, result⟩ := outcome
      have compiled := compile_of_cache ran
      cases result with
      | ok found =>
        rw [Action.bind_of_ok compiled]
        exact .inl ⟨next, _, _, rfl, .text isText ran⟩
      | error failure =>
        rw [Action.bind_of_error compiled]
        refine .inr ⟨next, events, failure, rfl, ?_⟩
        intro usable
        cases usable with
        | text again read =>
          cases isText.symm.trans again
          obtain ⟨_, _, _, succeeded⟩ := Cache.compile_readable env.cache read
          cases ran.symm.trans succeeded
        | callable noText _ => cases isText.symm.trans noText
  | none =>
    rw [ruleOf_plain isText]
    by_cases callable : v.isCallable env.context.classes = true
    · rw [if_pos callable]
      exact .inl ⟨env.cache, [], _, rfl, .callable isText callable⟩
    · rw [if_neg callable]
      refine .inr ⟨env.cache, [], _, rfl, ?_⟩
      intro usable
      cases usable with
      | text again read => cases isText.symm.trans again
      | callable _ can => exact callable can

/-- Adding a source behind a chain puts what the source stands for there. -/
theorem add_building (chain : Option (Chain κ)) (source : Source κ) (callback : Offer κ)
    (env : Environment) :
    Building chain env (source.Usable env.context.classes callback)
      (source.Yields env.context.classes env.cache callback) (add chain source callback env) := by
  cases source with
  | dispatcher other =>
    cases callback with
    | nothing =>
      obtain ⟨links, made, ran, whole, woven⟩ := splice_spec chain other env
      rw [add, ran]
      exact .built .dispatcher whole woven
    | function callback => exact .refused nofun (Nat.le_refl _)
    | other typeName => exact .refused nofun (Nat.le_refl _)
  | procedure procedure =>
    cases callback with
    | nothing => exact .refused nofun (Nat.le_refl _)
    | function callback =>
      have ruled : ruleOf (.procedure procedure : Source κ) env =
        ⟨env, [], .ok (.byHand procedure)⟩ := rfl
      obtain ⟨links, made, ran, whole, woven⟩ := build_spec chain ⟨.byHand procedure, callback⟩ env
      rw [add, Action.bind_of_ok ruled, ran]
      · exact .built .procedure whole woven
      · nofun
    | other typeName => exact .refused nofun (Nat.le_refl _)
  | value v =>
    cases callback with
    | nothing => exact .refused nofun (Nat.le_refl _)
    | function callback =>
      obtain ⟨next, events, rule, ruled, yields⟩ | ⟨next, events, failure, refused, faulty⟩ :=
        ruleOf_value v callback env
      · obtain ⟨links, made, ran, whole, woven⟩ :=
          build_spec chain ⟨rule, callback⟩ { env with cache := next }
        rw [add, Action.bind_of_ok ruled, ran]
        · exact .built yields whole woven
        · nofun
      · rw [add, Action.bind_of_error refused]
        · exact .refused faulty (Nat.le_refl _)
        · nofun
    | other typeName => exact .refused nofun (Nat.le_refl _)

/-! ## Definitions -/

theorem addAll_cons (chain : Option (Chain κ)) (entry second : Source κ × Offer κ)
    (others : List (Source κ × Offer κ)) : addAll chain (entry :: second :: others) =
      add chain entry.1 entry.2 >>= fun made => addAll (some made) (second :: others) := by
  rw [addAll]
  exact nofun

/-- The entries of a mapping are put behind a chain one after the other. -/
theorem addAll_building (chain : Option (Chain κ)) (entries : List (Source κ × Offer κ))
    (env : Environment) :
    Building chain env
      (entries ≠ [] ∧ ∀ entry ∈ entries, entry.1.Usable env.context.classes entry.2)
      (Definition.EntriesYield env.context.classes env.cache entries)
      (addAll chain entries env) := by
  -- What one entry made is the chain for the next, in the environment that it left.
  induction entries generalizing chain env with
  | nil => exact .refused (fun usable => usable.1 rfl) (Nat.le_refl _)
  | cons entry entries ih =>
    have own := add_building chain entry.1 entry.2 env
    generalize ran : add chain entry.1 entry.2 env = first at own
    cases entries with
    | nil =>
      rw [addAll, ran]
      cases own with
      | built yielded whole woven =>
        refine .built (.cons yielded .nil) ?_ woven
        rw [whole, List.append_nil]
      | refused faulty order =>
        exact .refused (fun usable => faulty (usable.2 entry List.mem_cons_self)) order
    | cons second others =>
      rw [addAll_cons]
      cases own with
      | @built cache links events made alternatives yielded whole woven =>
        have rest := ih (some made) ⟨env.context, cache, links⟩
        rw [Action.bind_of_ok ran]
        generalize addAll (some made) (second :: others) ⟨env.context, cache, links⟩ = last at rest
        cases rest with
        | built yieldedRest wholeRest wovenRest =>
          refine .built (.cons yielded yieldedRest) ?_ (wovenRest.mono woven.ordered)
          rw [wholeRest, Chain.listed, whole, List.append_assoc]
        | refused faulty order =>
          refine .refused ?_ (Nat.le_trans woven.ordered order)
          intro usable
          exact faulty ⟨List.cons_ne_nil _ _,
            fun other member => usable.2 other (List.mem_cons_of_mem _ member)⟩
      | refused faulty order =>
        rw [Action.bind_of_error ran]
        exact .refused (fun usable => faulty (usable.2 entry List.mem_cons_self)) order

/-- Building from a definition puts what it stands for behind the chain. -/
theorem pattern_building (chain : Option (Chain κ)) (definition : Definition κ)
    (callback : Offer κ) (env : Environment) :
    Building chain env (definition.Usable env.context.classes callback)
      (definition.Yields env.context.classes env.cache callback)
      (pattern chain definition callback env) := by
  cases definition with
  | source source =>
    have added := add_building chain source callback env
    rw [pattern]
    generalize add chain source callback env = ran at added
    cases added with
    | built yielded whole woven => exact .built (.source yielded) whole woven
    | refused faulty order =>
      refine .refused ?_ order
      intro usable
      cases usable with
      | source usable => exact faulty usable
  | mapping entries =>
    cases callback with
    | nothing =>
      have added := addAll_building chain entries env
      rw [pattern]
      generalize addAll chain entries env = ran at added
      cases added with
      | built yielded whole woven => exact .built (.mapping yielded) whole woven
      | refused faulty order =>
        refine .refused ?_ order
        intro usable
        cases usable with
        | mapping nonempty usable => exact faulty ⟨nonempty, usable⟩
    | function callback => exact .refused nofun (Nat.le_refl _)
    | other typeName => exact .refused nofun (Nat.le_refl _)

/-- One more alternative, or those of a mapping or of a dispatcher, behind those of a dispatcher. -/
def alt (made : Chain κ) (definition : Definition κ) (callback : Offer κ) :
    Action Environment (Chain κ) := pattern (some made) definition callback

/-- A mapping is built by adding its entries one by one. -/
theorem pattern_mapping (chain : Option (Chain κ)) (entry : Source κ × Offer κ)
    (entries : List (Source κ × Offer κ)) :
    pattern chain (.mapping (entry :: entries)) .nothing =
      pattern chain (.source entry.1) entry.2 >>= fun made =>
        entries.foldlM (fun made entry => alt made (.source entry.1) entry.2) made := by
  change addAll chain (entry :: entries) = add chain entry.1 entry.2 >>= _
  induction entries generalizing chain entry with
  | nil =>
    rw [addAll]
    exact (bind_pure _).symm
  | cons second others ih =>
    rw [addAll_cons]
    apply bind_congr
    intro made
    rw [List.foldlM_cons, ih]
    rfl

end Environment

/-! ## Sequences of builds -/

/-- One way to make chains. -/
inductive Build (κ : Type) where
  | pattern (chain : Option (Chain κ)) (definition : Definition κ) (callback : Offer κ)
  | append (c other : Chain κ)
  | extend (c : Chain κ) (alternative : Alternative κ)
  | clone (c : Chain κ)
  | last (c : Chain κ)
  | pop (c : Chain κ)

namespace Build

open Environment (onLinks)

/-- The chains that are made. -/
def run : Build κ → Action Environment (List (Chain κ))
  | pattern chain definition callback => do
    return [← Environment.pattern chain definition callback]
  | append c other => do return [← onLinks (c.append other)]
  | extend c alternative => do return [← onLinks (c.extend alternative)]
  | clone c => do return [← onLinks c.clone]
  | last c => return [c.last]
  | pop c => do
    let (front, ending) ← onLinks c.pop
    return ending :: front.toList

/-- The chain whose end becomes a part of what is made, if there is one. -/
def shared? : Build κ → Option (Chain κ)
  | append _ other => some other
  | last c | pop c => some c
  | _ => none

/-- The chains of a result, which are none if there was a failure. -/
def chains (result : Except Failure (List (Chain κ))) : List (Chain κ) :=
  match result with
  | .ok made => made
  | .error _ => []

/-- A build leaves the context alone, also when it fails, and knits what it makes to the chains that
it shares an end with. -/
structure Careful (build : Build κ) (env : Environment)
    (ran : Ran Environment (List (Chain κ))) : Prop where
  context : ran.state.context = env.context
  knit : ∀ known, Chain.Knit env.links known → (∀ c ∈ build.shared?, c ∈ known) →
    Chain.Knit ran.state.links (chains ran.outcome.result ++ known)

theorem run_of_links {build : Build κ} {env : Environment} {step : Action Nat (Chain κ)}
    {links : Nat} {made : Chain κ} {ending : List (Link κ)}
    (run_eq : build.run = do return [← onLinks step])
    (ran : step env.links = ⟨links, [], .ok made⟩)
    (woven : Chain.Woven env.links links ending made)
    (shared : ending = [] ∨ ∃ c ∈ build.shared?, ending <:+ c.links) :
    Careful build env (build.run env) := by
  have ended : build.run env = ⟨{ env with links := links }, [], .ok [made]⟩ := by
    rw [run_eq]
    exact Action.bind_of_ok (Environment.onLinks_of_ok ran) _
  rw [ended]
  refine ⟨rfl, ?_⟩
  intro known knit among
  apply knit.weave woven
  obtain none | ⟨c, member, suffix⟩ := shared
  · exact .inl none
  · exact .inr ⟨c, among c member, suffix⟩

theorem careful (build : Build κ) (env : Environment) : Careful build env (build.run env) := by
  cases build with
  | pattern chain definition callback =>
    have built := Environment.pattern_building chain definition callback env
    have run_eq : (pattern chain definition callback).run =
      Environment.pattern chain definition callback >>= fun made => pure [made] := rfl
    rw [run_eq]
    generalize ran : Environment.pattern chain definition callback env = outcome at built
    cases built with
    | built yielded whole woven =>
      rw [Action.bind_of_ok ran]
      exact ⟨rfl, fun known knit _ => knit.weave woven (.inl rfl)⟩
    | refused faulty order =>
      rw [Action.bind_of_error ran]
      exact ⟨rfl, fun known knit _ => knit.mono order⟩
  | append c other =>
    obtain ⟨links, made, ran, -, woven⟩ := c.append_spec other env.links
    exact run_of_links rfl ran woven (.inr ⟨other, rfl, List.suffix_refl _⟩)
  | extend c alternative =>
    obtain ⟨links, made, ran, -, woven⟩ := c.extend_spec alternative env.links
    exact run_of_links rfl ran woven (.inl rfl)
  | clone c =>
    obtain ⟨links, made, ran, -, woven⟩ := c.clone_spec env.links
    exact run_of_links rfl ran woven (.inl rfl)
  | last c =>
    refine ⟨rfl, ?_⟩
    intro known knit among
    exact knit.part (among c rfl) c.last_suffix
  | pop c =>
    obtain ⟨links, front, ran, -, order, woven⟩ := c.pop_spec env.links
    have ended : (pop c).run env =
        ⟨{ env with links := links }, [], .ok (c.last :: front.toList)⟩ :=
      Action.bind_of_ok (Environment.onLinks_of_ok ran) _
    rw [ended]
    refine ⟨rfl, ?_⟩
    intro known knit among
    cases front with
    | none => exact (knit.mono order).part (among c rfl) c.last_suffix
    | some rest =>
      have woven := knit.weave (woven rest rfl) (.inl rfl)
      exact woven.part (List.mem_cons_of_mem _ (among c rfl)) c.last_suffix

end Build

/-- An environment with all chains that were made in it. -/
structure Bench (κ : Type) where
  environment : Environment
  made : List (Chain κ)

namespace Bench

def new (ctx : Context) : Bench κ := ⟨Environment.ofContext ctx, []⟩

def build (bench : Bench κ) (one : Build κ) : Bench κ :=
  let ran := one.run bench.environment
  ⟨ran.state, bench.made ++ Build.chains ran.outcome.result⟩

/-- Builds in turn, each of which can use all chains that were made before. -/
def after (bench : Bench κ) (builds : List (List (Chain κ) → Build κ)) : Bench κ :=
  builds.foldl (fun bench next => bench.build (next bench.made)) bench

theorem after_cons (bench : Bench κ) (next : List (Chain κ) → Build κ)
    (builds : List (List (Chain κ) → Build κ)) :
    bench.after (next :: builds) = (bench.build (next bench.made)).after builds := rfl

/-- What was made stays, and so does all that a run of it looks at. -/
theorem kept_after (bench : Bench κ) (builds : List (List (Chain κ) → Build κ)) :
    bench.made <+: (bench.after builds).made ∧
      (bench.after builds).environment.context = bench.environment.context := by
  induction builds generalizing bench with
  | nil => exact ⟨List.prefix_refl _, rfl⟩
  | cons next builds ih =>
    obtain ⟨more, context⟩ := ih (bench.build (next bench.made))
    rw [after_cons]
    constructor
    · exact (List.prefix_append _ _).trans more
    · exact context.trans ((next bench.made).careful bench.environment).context

/-- Whatever is built from chains that were made before, no link that has a number gets another
alternative or another end. -/
theorem knit_after (bench : Bench κ) (builds : List (List (Chain κ) → Build κ))
    (knit : Chain.Knit bench.environment.links bench.made)
    (among : ∀ next ∈ builds, ∀ made, ∀ c ∈ (next made).shared?, c ∈ made) :
    Chain.Knit (bench.after builds).environment.links (bench.after builds).made := by
  induction builds generalizing bench with
  | nil => exact knit
  | cons next builds ih =>
    rw [after_cons]
    apply ih
    · have own := ((next bench.made).careful bench.environment).knit bench.made knit
        (among next List.mem_cons_self bench.made)
      exact own.subset (List.append_subset.mpr
        ⟨List.subset_append_right _ _, List.subset_append_left _ _⟩)
    · exact fun other member => among other (List.mem_cons_of_mem _ member)

end Bench

/-! ## Results -/

/-- The chain operations are those of lists: appending, copying and taking the last one off. -/
structure Chain.ListLaws (κ : Type) : Prop where
  append : ∀ (c other : Chain κ) (links : Nat),
    ∃ next made, c.append other links = ⟨next, [], .ok made⟩ ∧
      made.alternatives = c.alternatives ++ other.alternatives
  extend : ∀ (c : Chain κ) (alternative : Alternative κ) (links : Nat),
    ∃ next made, c.extend alternative links = ⟨next, [], .ok made⟩ ∧
      made.alternatives = c.alternatives ++ [alternative]
  clone : ∀ (c : Chain κ) (links : Nat),
    ∃ next made, c.clone links = ⟨next, [], .ok made⟩ ∧ made.alternatives = c.alternatives
  last : ∀ c : Chain κ, c.last.alternatives = [c.alternatives.getLast c.alternatives_ne_nil]
  pop : ∀ (c : Chain κ) (links : Nat),
    ∃ next front, c.pop links = ⟨next, [], .ok (front, c.last)⟩ ∧
      listed front = c.alternatives.dropLast ∧ listed front ++ c.last.alternatives = c.alternatives
  /-- What `pop` takes apart, `append` puts together. -/
  unpop : ∀ (c rest : Chain κ) (links next : Nat),
    c.pop links = ⟨next, [], .ok (some rest, c.last)⟩ → ∀ later,
      ∃ last again, rest.append c.last later = ⟨last, [], .ok again⟩ ∧
        again.alternatives = c.alternatives

theorem Chain.listLaws : ListLaws κ where
  append c other links := by
    obtain ⟨next, made, ran, whole, -⟩ := c.append_spec other links
    exact ⟨next, made, ran, whole⟩
  extend c alternative links := by
    obtain ⟨next, made, ran, whole, -⟩ := c.extend_spec alternative links
    exact ⟨next, made, ran, whole⟩
  clone c links := by
    obtain ⟨next, made, ran, whole, -⟩ := c.clone_spec links
    exact ⟨next, made, ran, whole⟩
  last := alternatives_last
  pop c links := by
    obtain ⟨next, front, ran, others, -⟩ := c.pop_spec links
    refine ⟨next, front, ran, others, ?_⟩
    rw [others, alternatives_last]
    exact List.dropLast_concat_getLast c.alternatives_ne_nil
  unpop c rest links next ran later := by
    obtain ⟨_, front, popped, others, -⟩ := c.pop_spec links
    cases ran.symm.trans popped
    exact append_pop c rest later others

namespace Environment

theorem outcome_dispatch (call : Calls κ) (chain : Chain κ) (arguments : List Value)
    (env : Environment) :
    (dispatch call chain arguments env).outcome = chain.run env.context call arguments := rfl

/-- A usable definition is built from, and what it stands for is put behind the chain. -/
theorem pattern_usable {definition : Definition κ} {callback : Offer κ} {env : Environment}
    (chain : Option (Chain κ)) (usable : definition.Usable env.context.classes callback) :
    ∃ cache links events made alternatives,
      pattern chain definition callback env = ⟨⟨env.context, cache, links⟩, events, .ok made⟩ ∧
      definition.Yields env.context.classes env.cache callback cache alternatives ∧
      made.alternatives = Chain.listed chain ++ alternatives := by
  have built := pattern_building chain definition callback env
  generalize pattern chain definition callback env = ran at built
  cases built with
  | built yielded whole woven => exact ⟨_, _, _, _, _, rfl, yielded, whole⟩
  | refused faulty order => exact absurd usable faulty

/-- Splicing a dispatcher behind another one. -/
theorem alt_dispatcher (c other : Chain κ) (env : Environment) :
    ∃ links events made, alt c (.source (.dispatcher other)) .nothing env =
        ⟨{ env with links := links }, events, .ok made⟩ ∧
      made.alternatives = c.alternatives ++ other.alternatives := by
  obtain ⟨links, made, ran, whole, -⟩ := splice_spec (some c) other env
  exact ⟨links, _, made, ran, whole⟩

/-- The alternatives of a result. -/
def alternativesOf (result : Except Failure (Chain κ)) : Except Failure (List (Alternative κ)) :=
  result.map Chain.alternatives

theorem alt_assoc (a b c : Chain κ) (env : Environment) :
    alternativesOf ((alt a (.source (.dispatcher b)) .nothing >>= fun ab =>
      alt ab (.source (.dispatcher c)) .nothing) env).outcome.result =
        .ok (a.alternatives ++ b.alternatives ++ c.alternatives) ∧
    alternativesOf ((alt b (.source (.dispatcher c)) .nothing >>= fun bc =>
      alt a (.source (.dispatcher bc)) .nothing) env).outcome.result =
        .ok (a.alternatives ++ b.alternatives ++ c.alternatives) := by
  constructor
  · obtain ⟨links, events, ab, ran, first⟩ := alt_dispatcher a b env
    obtain ⟨_, _, abc, last, whole⟩ := alt_dispatcher ab c { env with links := links }
    rw [Action.bind_of_ok ran, last, ← first, ← whole]
    rfl
  · obtain ⟨links, events, bc, ran, first⟩ := alt_dispatcher b c env
    obtain ⟨_, _, abc, last, whole⟩ := alt_dispatcher a bc { env with links := links }
    rw [Action.bind_of_ok ran, last, List.append_assoc, ← first, ← whole]
    rfl

/-- Building dispatchers is concatenation of lists, and what is built later, or fails to be, changes
neither the alternatives nor the outcome of what was built before. -/
theorem building_concatenates :
    (∀ (chain : Option (Chain κ)) (definition : Definition κ) (callback : Offer κ)
        (env : Environment), definition.Usable env.context.classes callback →
      ∃ cache links events made alternatives,
        pattern chain definition callback env = ⟨⟨env.context, cache, links⟩, events, .ok made⟩ ∧
        definition.Yields env.context.classes env.cache callback cache alternatives ∧
        made.alternatives = Chain.listed chain ++ alternatives) ∧
    (∀ (chain : Option (Chain κ)) (entry : Source κ × Offer κ) (entries : List (Source κ × Offer κ)),
      pattern chain (.mapping (entry :: entries)) .nothing =
        pattern chain (.source entry.1) entry.2 >>= fun made =>
          entries.foldlM (fun made entry => alt made (.source entry.1) entry.2) made) ∧
    (∀ (a b c : Chain κ) (env : Environment),
      alternativesOf ((alt a (.source (.dispatcher b)) .nothing >>= fun ab =>
        alt ab (.source (.dispatcher c)) .nothing) env).outcome.result =
          .ok (a.alternatives ++ b.alternatives ++ c.alternatives) ∧
      alternativesOf ((alt b (.source (.dispatcher c)) .nothing >>= fun bc =>
        alt a (.source (.dispatcher bc)) .nothing) env).outcome.result =
          .ok (a.alternatives ++ b.alternatives ++ c.alternatives)) ∧
    Chain.ListLaws κ ∧
    (∀ (bench : Bench κ) (builds : List (List (Chain κ) → Build κ)),
      bench.made <+: (bench.after builds).made ∧
      ∀ (call : Calls κ) (c : Chain κ) (arguments : List Value),
        (dispatch call c arguments (bench.after builds).environment).outcome =
          (dispatch call c arguments bench.environment).outcome) ∧
    ∀ (ctx : Context) (builds : List (List (Chain κ) → Build κ)),
      (∀ next ∈ builds, ∀ made, ∀ c ∈ (next made).shared?, c ∈ made) →
      let bench := (Bench.new ctx).after builds
      Chain.Knit bench.environment.links bench.made ∧
        ∀ a ∈ bench.made, ∀ b ∈ bench.made, a.isSame b = true → a = b := by
  refine ⟨?_, pattern_mapping, alt_assoc, Chain.listLaws, ?_, ?_⟩
  · intro chain definition callback env usable
    exact pattern_usable chain usable
  · intro bench builds
    obtain ⟨more, context⟩ := bench.kept_after builds
    refine ⟨more, ?_⟩
    intro call c arguments
    rw [outcome_dispatch, outcome_dispatch, context]
  · intro ctx builds among bench
    have knit := (Bench.new ctx).knit_after builds Chain.knit_nil among
    exact ⟨knit, fun a memberA b memberB => knit.eq_of_isSame memberA memberB⟩

/-- A text, a procedure and a dispatcher as the entries of one mapping. -/
theorem building_concatenates_mixed :
    let procedure : HandProcedure := ⟨Text.ofString "p", fun _ => .ok none⟩
    let c : Chain Nat :=
      ⟨[⟨0, .byHand procedure, 3⟩, ⟨1, .byHand procedure, 4⟩], List.cons_ne_nil _ _⟩
    let mapping : Definition Nat := .mapping [(.value (.str (Text.ofString "x")), .function 0),
      (.procedure procedure, .function 1), (.dispatcher c, .nothing)]
    let env : Environment := ofContext ⟨.empty, ⟨[]⟩, none⟩
    mapping.Usable env.context.classes .nothing ∧
      ∃ made, (pattern (some c) mapping .nothing env).outcome.result = .ok made ∧
        made.alternatives.map (·.callback) = [3, 4, 0, 1, 3, 4] := by
  intro procedure c mapping env
  have read : parse (Text.ofString "x") =
    .ok (.argumentList [.identifier (Text.ofString "x")]) := rfl
  have usable : mapping.Usable env.context.classes .nothing := by
    refine .mapping (List.cons_ne_nil _ _) ?_
    intro entry member
    simp only [List.mem_cons, List.not_mem_nil, or_false] at member
    obtain rfl | rfl | rfl := member
    · exact .text rfl read
    · exact .procedure
    · exact .dispatcher
  refine ⟨usable, ?_⟩
  obtain ⟨_, _, _, made, alternatives, ran, yields, whole⟩ :=
    building_concatenates.1 (some c) mapping .nothing env usable
  refine ⟨made, by rw [ran], ?_⟩
  rw [whole]
  have yields : Definition.Yields _ _ (.mapping _) .nothing _ alternatives := yields
  cases yields with
  | mapping yields =>
    cases yields with
    | cons first rest =>
      cases rest with
      | cons second rest =>
        cases rest with
        | cons third rest =>
          cases rest
          cases second
          cases third
          cases first with
          | text isText compiles => rfl
          | callable noText callable => cases noText

end Environment

end PatternDispatch
