import PatternDispatch.Traced

/-!
Steps that change a state and report events. What a step has changed stays changed when a later
one fails.
-/

namespace PatternDispatch

structure Ran (σ α : Type) where
  state : σ
  outcome : Traced α

def Action (σ α : Type) := σ → Ran σ α

namespace Action

variable {σ τ α : Type}

instance : Monad (Action σ) where
  pure a := fun s => ⟨s, pure a⟩
  bind step next := fun s =>
    let first := step s
    match first.outcome.result with
    | .error failure => ⟨first.state, first.outcome.events, .error failure⟩
    | .ok a =>
      let second := next a first.state
      ⟨second.state, first.outcome.events ++ second.outcome.events, second.outcome.result⟩

def state : Action σ σ := fun s => ⟨s, pure s⟩

def setState (s : σ) : Action σ Unit := fun _ => ⟨s, pure ()⟩

def change (f : σ → σ) : Action σ Unit := fun s => ⟨f s, pure ()⟩

def ofTraced (traced : Traced α) : Action σ α := fun s => ⟨s, traced⟩

def fail (failure : Failure) : Action σ α := ofTraced (Traced.fail failure)

def note (event : Event) : Action σ Unit := ofTraced (Traced.note event)

/-- Runs a step on a part of a larger state. -/
def onPart (get : τ → σ) (put : τ → σ → τ) (step : Action σ α) : Action τ α := fun t =>
  let ran := step (get t)
  ⟨put t ran.state, ran.outcome⟩

theorem bind_of_ok {β : Type} {step : Action σ α} {s next : σ} {events : List Event} {a : α}
    (ran : step s = ⟨next, events, .ok a⟩) (f : α → Action σ β) :
    (step >>= f) s = ⟨(f a next).state, events ++ (f a next).outcome.events,
      (f a next).outcome.result⟩ := by
  simp [bind, ran]

theorem bind_of_error {β : Type} {step : Action σ α} {s next : σ} {events : List Event}
    {failure : Failure} (ran : step s = ⟨next, events, .error failure⟩) (f : α → Action σ β) :
    (step >>= f) s = ⟨next, events, .error failure⟩ := by
  simp [bind, ran]

theorem bind_bind {β γ : Type} (step : Action σ α) (f : α → Action σ β) (g : β → Action σ γ) :
    step >>= f >>= g = step >>= fun a => f a >>= g := by
  funext s
  cases ran : step s with
  | mk next outcome =>
    obtain ⟨events, result⟩ := outcome
    cases result with
    | error failure => rw [bind_of_error ran, bind_of_error (bind_of_error ran f)]
    | ok a =>
      rw [bind_of_ok ran]
      cases later : f a next with
      | mk last outcome =>
        obtain ⟨more, result⟩ := outcome
        cases result <;> simp [bind, ran, later, List.append_assoc]

theorem id_map (step : Action σ α) : id <$> step = step := by
  change step >>= pure = step
  funext s
  cases ran : step s with
  | mk next outcome =>
    obtain ⟨events, result⟩ := outcome
    cases result <;> simp [bind, ran, pure]

instance : LawfulMonad (Action σ) := LawfulMonad.mk' (Action σ) id_map (fun _ _ => rfl) bind_bind

end Action

end PatternDispatch
