import PatternDispatch.Failure

/-!
Computations that report events. The events of a computation are those of its steps in order, up
to and including the first step that fails, and nothing after it.
-/

namespace PatternDispatch

inductive Event where
  | extractorCalled (name function : Text) (value : Value)
  | componentsAsked (value : Value)
  | entriesAsked (value : Value)
  | fieldsAsked (value : Value)
  | procedureCalled (name : Text) (arguments : List Value)
  | callbackCalled (position : Nat) (captures : List Value)
  | alternativeTried (position : Nat) (title : Text) (matched : Bool)
  | extractorRegistered (name : Text)
  | extractorUnregistered (name : Text)
  | sumTypeRegistered (name : Text) (variants : List Text)
  | patternCompiled (canonical : Text) (captures : Nat)
  | patternReused (text canonical : Text)
  | dispatcherBuilt (alternatives : Nat)
deriving Repr

structure Traced (α : Type) where
  events : List Event
  result : Except Failure α

/-- What a mapped result is made from. -/
theorem exists_of_map_ok {ε α β : Type} {result : Except ε α} {f : α → β} {b : β}
    (same : result.map f = .ok b) : ∃ a, result = .ok a ∧ f a = b := by
  cases result with
  | error e => cases same
  | ok a => exact ⟨a, rfl, Except.ok.inj same⟩

namespace Traced

variable {α : Type}

def fail (failure : Failure) : Traced α := ⟨[], .error failure⟩

def note (event : Event) : Traced Unit := ⟨[event], .ok ()⟩

def ofExcept (result : Except Failure α) : Traced α := ⟨[], result⟩

instance : Monad Traced where
  pure a := ⟨[], .ok a⟩
  bind x f := match x.result with
    | .error failure => ⟨x.events, .error failure⟩
    | .ok a =>
      let y := f a
      ⟨x.events ++ y.events, y.result⟩

theorem result_bind {β : Type} (x : Traced α) (f : α → Traced β) :
    (x >>= f).result = match x.result with
      | .error failure => .error failure
      | .ok a => (f a).result := by
  obtain ⟨events, result⟩ := x
  cases result <;> rfl

theorem events_bind {β : Type} (x : Traced α) (f : α → Traced β) :
    (x >>= f).events = x.events ++ match x.result with
      | .error _ => []
      | .ok a => (f a).events := by
  obtain ⟨events, result⟩ := x
  cases result with
  | error failure => exact (List.append_nil events).symm
  | ok a => rfl

theorem bind_congr {β : Type} {x : Traced α} {f g : α → Traced β}
    (same : ∀ a, x.result = .ok a → f a = g a) : x >>= f = x >>= g := by
  obtain ⟨events, result⟩ := x
  cases result with
  | error failure => rfl
  | ok a =>
    have equal := same a rfl
    simp only [bind, equal]

theorem map_eq {β : Type} (f : α → β) (x : Traced α) : f <$> x = ⟨x.events, x.result.map f⟩ := by
  obtain ⟨events, result⟩ := x
  cases result with
  | error failure => rfl
  | ok a => simp [Functor.map, Except.map]

theorem bind_bind {β γ : Type} (x : Traced α) (f : α → Traced β) (g : β → Traced γ) :
    x >>= f >>= g = x >>= fun a => f a >>= g := by
  obtain ⟨events, result⟩ := x
  cases result with
  | error failure => rfl
  | ok a =>
    cases later : f a with
    | mk more result => cases result <;> simp [bind, later, List.append_assoc]

theorem id_map (x : Traced α) : id <$> x = x := by
  obtain ⟨events, result⟩ := x
  cases result <;> rw [map_eq] <;> rfl

instance : LawfulMonad Traced := LawfulMonad.mk' Traced id_map (fun _ _ => rfl) bind_bind

end Traced

end PatternDispatch
