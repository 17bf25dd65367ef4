import Mathlib.Tactic.Positivity
import Mathlib.Tactic.Ring
import Mathlib.Data.List.Induction
import PatternDispatch.Text.Character

/-!
Digits in writing and reading. Reading is a left fold, so a digit more on the right multiplies what
stands before it, and writing takes the last digit off first; the two are inverse on every number.
-/

namespace PatternDispatch.Text

open Character

/-! ## Decimal digits -/

theorem readDecimal_concat (t : Text) (c : CodePoint) :
    readDecimal (t ++ [c]) = 10 * readDecimal t + (c - '0'.toNat) := by
  simp [readDecimal]

theorem readDecimal_append (s t : Text) :
    readDecimal (s ++ t) = readDecimal s * 10 ^ t.length + readDecimal t := by
  induction t using List.reverseRecOn with
  | nil => simp [readDecimal]
  | append_singleton t c ih =>
    rw [← List.append_assoc, readDecimal_concat, readDecimal_concat, ih, List.length_append,
      List.length_singleton, Nat.pow_succ]
    ring

theorem readDecimal_zeros (count : Nat) : readDecimal (List.replicate count '0'.toNat) = 0 := by
  induction count with
  | zero => rfl
  | succ count ih => rw [List.replicate_succ', readDecimal_concat, ih]; rfl

theorem decimalDigits_small {n : Nat} (small : n < 10) : decimalDigits n = [n] := by
  rw [decimalDigits, if_pos small]

theorem decimalDigits_large {n : Nat} (large : ¬n < 10) :
    decimalDigits n = decimalDigits (n / 10) ++ [n % 10] := by
  rw [decimalDigits, if_neg large]

theorem decimalDigits_lt (n : Nat) : ∀ d ∈ decimalDigits n, d < 10 := by
  induction n using decimalDigits.induct with
  | case1 n small => simpa [decimalDigits_small small] using small
  | case2 n large ih =>
    rw [decimalDigits_large large]
    intro d member
    rcases List.mem_append.mp member with before | last
    · exact ih d before
    · rw [List.mem_singleton.mp last]
      exact Nat.mod_lt n (by omega)

theorem decimalDigits_ne_nil (n : Nat) : decimalDigits n ≠ [] := by
  by_cases small : n < 10
  · simp [decimalDigits_small small]
  · simp [decimalDigits_large small]

/-- Only zero is written with a zero in front. -/
theorem decimalDigits_head {n : Nat} (positive : 0 < n) :
    ∃ d ds, decimalDigits n = d :: ds ∧ 0 < d := by
  induction n using decimalDigits.induct with
  | case1 n small => exact ⟨n, [], decimalDigits_small small, positive⟩
  | case2 n large ih =>
    obtain ⟨d, ds, same, first⟩ := ih (by omega)
    exact ⟨d, ds ++ [n % 10], by rw [decimalDigits_large large, same, List.cons_append], first⟩

theorem decimalDigits_length_le {n count : Nat} (positive : 0 < count) (small : n < 10 ^ count) :
    (decimalDigits n).length ≤ count := by
  induction count generalizing n with
  | zero => omega
  | succ count ih =>
    by_cases single : n < 10
    · simp [decimalDigits_small single]
    · have shorter : n / 10 < 10 ^ count := by
        rw [Nat.pow_succ] at small
        omega
      have several : 0 < count := by
        rcases Nat.eq_zero_or_pos count with rfl | several
        · simp at shorter
          omega
        · exact several
      rw [decimalDigits_large single, List.length_append, List.length_singleton]
      exact Nat.succ_le_succ (ih several shorter)

theorem decimalDigits_zeros (n : Nat) (positive : 0 < n) (count : Nat) :
    (decimalDigits (n * 10 ^ count)).length = (decimalDigits n).length + count := by
  induction count with
  | zero => simp
  | succ count ih =>
    have large : ¬n * 10 ^ (count + 1) < 10 := by
      have below : 1 ≤ n * 10 ^ count := Nat.mul_pos positive (by positivity)
      rw [Nat.pow_succ, ← Nat.mul_assoc]
      omega
    have shorter : n * 10 ^ (count + 1) / 10 = n * 10 ^ count := by
      rw [Nat.pow_succ, ← Nat.mul_assoc, Nat.mul_div_cancel _ (by omega)]
    rw [decimalDigits_large large, shorter, List.length_append, ih, List.length_singleton]
    omega

theorem ofDigits_isDigit {digits : List Nat} (small : ∀ d ∈ digits, d < 10) :
    ∀ c ∈ ofDigits digits, isDigit c = true := by
  intro c member
  obtain ⟨d, inside, rfl⟩ := List.mem_map.mp member
  have bound := small d inside
  simp only [isDigit, Char.reduceToNat, Bool.and_eq_true, decide_eq_true_eq]
  unfold CodePoint
  omega

theorem ofNat_isDigit (n : Nat) : ∀ c ∈ ofNat n, isDigit c = true :=
  ofDigits_isDigit (decimalDigits_lt n)

theorem ofNat_ne_nil (n : Nat) : ofNat n ≠ [] := by
  simpa [ofNat, ofDigits] using decimalDigits_ne_nil n

theorem length_ofNat (n : Nat) : (ofNat n).length = (decimalDigits n).length := by
  simp [ofNat, ofDigits]

/-- What is written is read back. -/
theorem readDecimal_ofNat (n : Nat) : readDecimal (ofNat n) = n := by
  induction n using decimalDigits.induct with
  | case1 n small => simp [ofNat, ofDigits, decimalDigits_small small, readDecimal]
  | case2 n large ih =>
    simp only [ofNat, ofDigits] at ih ⊢
    rw [decimalDigits_large large, List.map_append, List.map_singleton, readDecimal_concat, ih]
    omega

/-- Digits denote less than the next power of ten. -/
theorem readDecimal_lt {t : Text} (digits : ∀ c ∈ t, isDigit c = true) :
    readDecimal t < 10 ^ t.length := by
  induction t using List.reverseRecOn with
  | nil => simp [readDecimal]
  | append_singleton t c ih =>
    have before := ih fun d member => digits d (by simp [member])
    have last := digits c (by simp)
    simp only [isDigit, Char.reduceToNat, Bool.and_eq_true, decide_eq_true_eq] at last
    rw [readDecimal_concat, List.length_append, List.length_singleton, Nat.pow_succ]
    simp only [Char.reduceToNat]
    unfold CodePoint at last
    omega

/-! ## Hexadecimal digits -/

theorem readHex_concat (t : Text) (c : CodePoint) :
    readHex (t ++ [c]) = 16 * readHex t + hexValue c := by
  simp [readHex]

theorem hexDigit_spec {d : Nat} (small : d < 16) :
    isHexDigit (hexDigit d) = true ∧ hexValue (hexDigit d) = d := by
  revert d
  decide

theorem length_hex (width n : Nat) : (hex width n).length = width := by
  induction width generalizing n with
  | zero => rfl
  | succ width ih => rw [hex, List.length_append, ih, List.length_singleton]

theorem hex_isHexDigit (width n : Nat) : ∀ c ∈ hex width n, isHexDigit c = true := by
  induction width generalizing n with
  | zero => simp [hex]
  | succ width ih =>
    rw [hex]
    intro c member
    rcases List.mem_append.mp member with before | last
    · exact ih (n / 16) c before
    · rw [List.mem_singleton.mp last]
      exact (hexDigit_spec (Nat.mod_lt n (by omega))).1

theorem readHex_hex {width n : Nat} (small : n < 16 ^ width) : readHex (hex width n) = n := by
  induction width generalizing n with
  | zero =>
    rw [hex]
    simp only [Nat.pow_zero] at small
    simp only [readHex, List.foldl_nil]
    omega
  | succ width ih =>
    have shorter : n / 16 < 16 ^ width := by
      rw [Nat.pow_succ] at small
      omega
    rw [hex, readHex_concat, ih shorter, (hexDigit_spec (Nat.mod_lt n (by omega))).2]
    omega

end PatternDispatch.Text
