import PatternDispatch.Environment
import PatternDispatch.Proofs.CacheSteps

/-!
What an environment keeps. Its cache is sound, and stays so through every operation, whether it
succeeds or fails.
-/

namespace PatternDispatch

open Pattern.Parser (parse)

/-! ## Steps that keep an invariant -/

namespace Action

variable {σ τ α β : Type} {inv : σ → Prop}

/-- Whether a step keeps an invariant of its state, also when it fails. -/
def Keeps (inv : σ → Prop) (step : Action σ α) : Prop := ∀ s, inv s → inv (step s).state

theorem Keeps.pure (a : α) : Keeps inv (Pure.pure a) := fun _ holds => holds

theorem Keeps.ofTraced (traced : Traced α) : Keeps inv (ofTraced traced) := fun _ holds => holds

theorem Keeps.state : Keeps inv state := fun _ holds => holds

theorem Keeps.bind {step : Action σ α} {next : α → Action σ β} (first : Keeps inv step)
    (later : ∀ a, Keeps inv (next a)) : Keeps inv (step >>= next) := by
  intro s holds
  have between := first s holds
  cases ran : step s with
  | mk after outcome =>
    obtain ⟨events, result⟩ := outcome
    rw [ran] at between
    cases result with
    | error failure =>
      rw [bind_of_error ran]
      exact between
    | ok a =>
      rw [bind_of_ok ran]
      exact later a after between

/-- A step that begins with a look at the state knows what holds of it. -/
theorem Keeps.look {next : σ → Action σ β} (later : ∀ s, inv s → inv (next s s).state) :
    Keeps inv (Action.state >>= next) := by
  intro s holds
  have started : (Action.state : Action σ σ) s = ⟨s, [], .ok s⟩ := rfl
  rw [bind_of_ok started]
  exact later s holds

/-- A step on a part of a state keeps what the part has to keep for the whole. -/
theorem Keeps.onPart {get : τ → σ} {put : τ → σ → τ} {step : Action σ α} {whole : τ → Prop}
    (kept : ∀ t, whole t → whole (put t (step (get t)).state)) :
    Keeps whole (onPart get put step) := kept

end Action

open PatternDispatch.Action (Keeps)

/-- Compiling keeps the cache sound, also when the text cannot be read. -/
theorem Cache.keeps_compile (text : Text) : Keeps Sound (compile text) :=
  fun _ sound => (compiling sound.enabled text).sound sound

namespace Environment

variable {κ : Type}

/-- Whether the cache of an environment is sound. -/
def Sound (env : Environment) : Prop := env.cache.Sound

theorem sound_ofContext (ctx : Context) : (ofContext ctx).Sound := Cache.sound_empty

theorem keeps_onCache {α : Type} {step : Action Cache α} (kept : Keeps Cache.Sound step) :
    Keeps Sound (onCache step) := Keeps.onPart fun env sound => kept env.cache sound

theorem keeps_onLinks {α : Type} (step : Action Nat α) : Keeps Sound (onLinks step) :=
  Keeps.onPart fun _ sound => sound

theorem keeps_onExtractors {α : Type} (step : Action Extractors α) :
    Keeps Sound (onExtractors step) := Keeps.onPart fun _ sound => sound

theorem keeps_compile (text : Text) : Keeps Sound (compile text) :=
  keeps_onCache (Cache.keeps_compile text)

theorem keeps_compileWithErrors (text : Text) : Keeps Sound (compileWithErrors text) := by
  intro env sound
  unfold compileWithErrors
  dsimp only
  split <;> exact keeps_compile text env sound

theorem keeps_extract (text : Text) (arguments : List Value) : Keeps Sound (extract text arguments) :=
  (keeps_compile text).bind fun _ => Keeps.state.bind fun _ => Keeps.ofTraced _

theorem keeps_dispatch (call : Calls κ) (chain : Chain κ) (arguments : List Value) :
    Keeps Sound (dispatch call chain arguments) := Keeps.state.bind fun _ => Keeps.ofTraced _

theorem keeps_build (chain : Option (Chain κ)) (alternative : Alternative κ) :
    Keeps Sound (build chain alternative) :=
  (keeps_onLinks _).bind fun _ => (Keeps.ofTraced _).bind fun _ => Keeps.pure _

theorem keeps_splice (chain : Option (Chain κ)) (other : Chain κ) :
    Keeps Sound (splice chain other) :=
  (keeps_onLinks _).bind fun _ => (keeps_onLinks _).bind fun _ => keeps_build _ _

theorem keeps_ruleOf (source : Source κ) : Keeps Sound (ruleOf source) := by
  cases source with
  | value v =>
    refine Keeps.state.bind fun env => ?_
    dsimp only
    split
    · exact (keeps_compile _).bind fun _ => Keeps.pure _
    · split
      · exact Keeps.pure _
      · exact Keeps.ofTraced _
  | procedure procedure => exact Keeps.pure _
  | dispatcher chain => exact Keeps.ofTraced _

theorem keeps_add (chain : Option (Chain κ)) (source : Source κ) (callback : Offer κ) :
    Keeps Sound (add chain source callback) := by
  unfold add
  split
  · exact keeps_splice _ _
  · exact Keeps.ofTraced _
  · exact Keeps.ofTraced _
  · exact Keeps.ofTraced _
  · exact (keeps_ruleOf _).bind fun _ => keeps_build _ _

theorem keeps_addAll (chain : Option (Chain κ)) (entries : List (Source κ × Offer κ)) :
    Keeps Sound (addAll chain entries) := by
  induction entries generalizing chain with
  | nil => exact Keeps.ofTraced _
  | cons entry entries ih =>
    cases entries with
    | nil => exact keeps_add _ _ _
    | cons second others => exact (keeps_add _ _ _).bind fun next => ih (some next)

theorem keeps_pattern (chain : Option (Chain κ)) (definition : Definition κ)
    (callback : Offer κ) : Keeps Sound (pattern chain definition callback) := by
  unfold pattern
  split
  · exact keeps_add _ _ _
  · exact keeps_addAll _ _
  · exact Keeps.ofTraced _

theorem keeps_matchOn (call : Calls κ) (arguments : List Value) (matcher : Definition κ) :
    Keeps Sound (matchOn call arguments matcher) := by
  unfold matchOn
  split
  · exact (keeps_addAll _ _).bind fun _ => keeps_dispatch _ _ _
  · exact keeps_dispatch _ _ _
  · exact Keeps.ofTraced _

theorem keeps_caseOf (call : Calls κ) (serve : Value → κ) (arguments : List Value)
    (matcher : Option (Definition κ)) : Keeps Sound (caseOf call serve arguments matcher) := by
  unfold caseOf
  split
  · exact keeps_matchOn _ _ _
  · exact Keeps.state.bind fun _ => keeps_matchOn _ _ _
  · exact Keeps.ofTraced _

theorem keeps_useSumTypes (types? : Option SumTypes) : Keeps Sound (useSumTypes types?) :=
  fun _ sound => sound

theorem keeps_setSumTypes (types : Option (List (Text × List Text))) :
    Keeps Sound (setSumTypes types) :=
  Keeps.state.bind fun _ => (Keeps.ofTraced _).bind fun _ => keeps_useSumTypes _

/-- What can be done with an environment. -/
inductive Operation : {α : Type} → Action Environment α → Prop where
  | compile (text : Text) : Operation (compile text)
  | compileWithErrors (text : Text) : Operation (compileWithErrors text)
  | extract (text : Text) (arguments : List Value) : Operation (extract text arguments)
  | dispatch {κ : Type} (call : Calls κ) (chain : Chain κ) (arguments : List Value) :
      Operation (dispatch call chain arguments)
  | pattern {κ : Type} (chain : Option (Chain κ)) (definition : Definition κ)
      (callback : Offer κ) : Operation (pattern chain definition callback)
  | caseOf {κ : Type} (call : Calls κ) (serve : Value → κ) (arguments : List Value)
      (matcher : Option (Definition κ)) : Operation (caseOf call serve arguments matcher)
  | onExtractors {α : Type} (step : Action Extractors α) : Operation (onExtractors step)
  | useSumTypes (types? : Option SumTypes) : Operation (useSumTypes types?)
  | setSumTypes (types : Option (List (Text × List Text))) : Operation (setSumTypes types)

/-- The environments that operations lead to from a new one, in any order. -/
inductive Reached (ctx : Context) : Environment → Prop where
  | start : Reached ctx (ofContext ctx)
  | step {α : Type} {env : Environment} {action : Action Environment α} :
      Reached ctx env → Operation action → Reached ctx (action env).state

theorem Operation.keeps {α : Type} {action : Action Environment α} (operation : Operation action) :
    Keeps Sound action := by
  cases operation with
  | compile text => exact keeps_compile text
  | compileWithErrors text => exact keeps_compileWithErrors text
  | extract text arguments => exact keeps_extract text arguments
  | dispatch call chain arguments => exact keeps_dispatch call chain arguments
  | pattern chain definition callback => exact keeps_pattern chain definition callback
  | caseOf call serve arguments matcher => exact keeps_caseOf call serve arguments matcher
  | onExtractors step => exact keeps_onExtractors step
  | useSumTypes types? => exact keeps_useSumTypes types?
  | setSumTypes types => exact keeps_setSumTypes types

theorem Reached.sound {ctx : Context} {env : Environment} (reached : Reached ctx env) :
    env.Sound := by
  induction reached with
  | start => exact sound_ofContext ctx
  | step _ operation ih => exact operation.keeps _ ih

/-- A cache that is in use is sound where operations lead to its environment. -/
theorem cache_sound_of_used {env : Environment}
    (used : env.cache.enabled = true → ∃ ctx, Reached ctx env) (enabled : env.cache.enabled = true) :
    env.cache.Sound :=
  (used enabled).elim fun _ reached => reached.sound

/-- In an environment that operations lead to, compiling a text that can be read answers as the cache
does, and nothing but the cache changes. -/
theorem compile_spec {ctx : Context} {env : Environment} {text : Text} {tree : Pattern}
    (reached : Reached ctx env) (read : parse text = .ok tree) :
    ∃ next events compiled, compile text env = ⟨{ env with cache := next }, events, .ok compiled⟩ ∧
      env.cache.Answers tree next compiled := by
  obtain ⟨next, events, compiled, ran, answers⟩ := Cache.compile_spec reached.sound read
  refine ⟨next, events, compiled, ?_, answers⟩
  unfold compile onCache Action.onPart
  rw [ran]

end Environment

end PatternDispatch
