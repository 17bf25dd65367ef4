import Mathlib.Logic.Function.Iterate
import PatternDispatch.Proofs.LiteralSpans

/-!
Recursion that goes forward in a text. Each of its answers is made of answers at places further on,
so the text that is left bounds it: it ends, it computes one function only, and a limit on its rounds
is not met where it is above the length of that text. The turns of the loop over a string body are
such a recursion.
-/

namespace PatternDispatch.Cursor

section Recursion

variable {σ ρ : Type} {place : σ → Cursor} {step : (σ → ρ) → σ → ρ}

/-- What the recursion by `step` computes, from states that each have a place in the text. -/
structure ForwardRecursion (place : σ → Cursor) (step : (σ → ρ) → σ → ρ) (result : σ → ρ) :
    Prop where
  /-- A step asks the recursion only further on, where the buffer is shorter: what it would answer
  anywhere else does not matter. -/
  forward : ∀ f s, (∀ t, (place s).Passes (place t) → f t = result t) → step f s = result s
  unfolds : ∀ s, result s = step result s
  unique : ∀ f, (∀ s, f s = step f s) → f = result
  /-- One round more than there are characters left is enough: whatever stands below the last round
  is not asked. -/
  rounds : ∀ base count s, (place s).buffer.length < count → step^[count] base s = result s

section Forward

variable {result : σ → ρ}
  (forward : ∀ f s, (∀ t, (place s).Passes (place t) → f t = result t) → step f s = result s)

include forward

/-- Each round asks where at least one character less is left. -/
theorem iterate_of_forward (base : σ → ρ) {count : Nat} {s : σ}
    (short : (place s).buffer.length < count) : step^[count] base s = result s := by
  induction count generalizing s with
  | zero => exact absurd short (Nat.not_lt_zero _)
  | succ count ih =>
    rw [Function.iterate_succ_apply']
    refine forward _ s fun t passes => ih ?_
    have shorter := passes.length_lt
    omega

theorem ForwardRecursion.of_forward : ForwardRecursion place step result where
  forward := forward
  unfolds s := (forward result s fun _ _ => rfl).symm
  unique f fixed := by
    -- What a step does not change, no number of rounds changes.
    have stays : step f = f := funext fun s => (fixed s).symm
    refine funext fun s => ?_
    rw [← iterate_of_forward forward f (Nat.lt_succ_self (place s).buffer.length),
      Function.iterate_fixed stays]
  rounds base _ _ := iterate_of_forward forward base

end Forward

/-- A recursion with a limit on its rounds, which answers at the end of the text without asking. -/
structure Limited (place : σ → Cursor) (step : (σ → ρ) → σ → ρ) (limited : Nat → σ → ρ) :
    Prop where
  forward : ∀ limit f s, (∀ t, (place s).Passes (place t) → f t = limited limit t) →
    step f s = limited (limit + 1) s
  exhausted : ∀ f s, (place s).buffer = [] → step f s = limited 0 s

namespace Limited

variable {limited : Nat → σ → ρ} (recursion : Limited place step limited)

include recursion

/-- At the end of the text no limit is met. -/
theorem at_end (limit : Nat) {s : σ} (empty : (place s).buffer = []) :
    limited limit s = limited 0 s := by
  cases limit with
  | zero => rfl
  | succ limit =>
    rw [← recursion.forward limit (limited limit) s fun _ _ => rfl]
    exact recursion.exhausted _ s empty

/-- Two limits that the text does not exceed give one answer. -/
theorem enough {one two : Nat} {s : σ} (withinOne : (place s).buffer.length ≤ one)
    (withinTwo : (place s).buffer.length ≤ two) : limited one s = limited two s := by
  induction one generalizing two s with
  | zero =>
    have empty := List.eq_nil_of_length_eq_zero (Nat.le_zero.mp withinOne)
    exact (recursion.at_end two empty).symm
  | succ one ih =>
    cases two with
    | zero =>
      have empty := List.eq_nil_of_length_eq_zero (Nat.le_zero.mp withinTwo)
      exact recursion.at_end (one + 1) empty
    | succ two =>
      calc limited (one + 1) s
        _ = step (limited two) s := by
          refine (recursion.forward one _ s fun t passes => ?_).symm
          have shorter := passes.length_lt
          exact (ih (by omega) (by omega)).symm
        _ = limited (two + 1) s := recursion.forward two _ s fun _ _ => rfl

/-- With what is left as its limit the recursion computes what it computes without a limit. -/
theorem result :
    ForwardRecursion place step fun s => limited (place s).buffer.length s := by
  refine .of_forward fun f s same => ?_
  cases left : (place s).buffer.length with
  | zero => exact recursion.exhausted f s (List.eq_nil_of_length_eq_zero left)
  | succ limit =>
    refine recursion.forward limit f s fun t passes => (same t passes).trans ?_
    have shorter := passes.length_lt
    exact recursion.enough (Nat.le_refl _) (by omega)

end Limited

end Recursion

/-! ## Bodies of strings -/

/-- One turn of the loop over a string body, with `again` for the turns behind it. -/
def bodyTurn (plain : Token) (again : Cursor → Text × Cursor) (c : Cursor) : Text × Cursor :=
  match c.lex? plain with
  | some (lexeme, next) =>
    let (body, last) := again next
    (lexeme.text ++ body, last)
  | none =>
    match c.escape? with
    | some (meaning, next) =>
      let (body, last) := again next
      (meaning ++ body, last)
    | none => ([], c)

theorem lex?_of_end {c : Cursor} (empty : c.buffer = []) (token : Token) : c.lex? token = none := by
  cases lexed : c.lex? token with
  | none => rfl
  | some found =>
    have shorter := (lex?_passes lexed).length_lt
    rw [empty] at shorter
    cases shorter

theorem stringBody_limited (plain : Token) : Limited id (bodyTurn plain) (stringBody plain) where
  forward limit f c same := by
    change bodyTurn plain f c = bodyTurn plain (stringBody plain limit) c
    rw [bodyTurn, bodyTurn]
    cases lexed : c.lex? plain with
    | some found => simp only [same found.2 (lex?_passes lexed)]
    | none =>
      cases escaped : c.escape? with
      | some found => simp only [same found.2 (lexEscape?_passes escaped)]
      | none => rfl
  exhausted f c empty := by
    have noPlain : c.lex? plain = none := lex?_of_end empty plain
    have noEscape : c.escape? = none := escape?_none (by rw [show c.buffer = [] from empty]; nofun)
    rw [bodyTurn, noPlain, noEscape]
    rfl

end PatternDispatch.Cursor
