import Mathlib.Algebra.Order.Field.Power
import Mathlib.Data.Rat.Cast.Order
import Mathlib.Tactic.FieldSimp
import Mathlib.Tactic.Linarith
import Mathlib.Tactic.Positivity
import Mathlib.Tactic.Ring
import PatternDispatch.Number.Binary

/-!
Rounding to a binary format. The place of the last digit comes from the logarithm of the magnitude,
and a magnitude that has a rank is met exactly, so rounding it gives that rank back.
-/

namespace PatternDispatch

/-- Scaling is multiplying by a power of the base. -/
theorem scaled_eq (base n : Nat) (exponent : Int) :
    scaled base n exponent = (n : ℚ) * (base : ℚ) ^ exponent := by
  unfold scaled
  split
  · next nonneg =>
    have whole : (base : ℚ) ^ exponent = (base : ℚ) ^ exponent.toNat := by
      rw [← zpow_natCast, Int.toNat_of_nonneg nonneg]
    rw [whole]
    push_cast
    rfl
  · next negative =>
    have below : (base : ℚ) ^ exponent = ((base : ℚ) ^ (-exponent).toNat)⁻¹ := by
      rw [← zpow_natCast, Int.toNat_of_nonneg (by omega), zpow_neg, inv_inv]
    rw [below, Rat.mkRat_eq_div]
    push_cast
    rfl

/-- A power of two with its negative part below the line. -/
theorem zpow_split (e : Int) : (2 : ℚ) ^ e = 2 ^ e.toNat / 2 ^ (-e).toNat := by
  rcases Int.le_total 0 e with nonneg | nonpos
  · have none : (-e).toNat = 0 := by omega
    rw [none, pow_zero, div_one, ← zpow_natCast, Int.toNat_of_nonneg nonneg]
  · have none : e.toNat = 0 := by omega
    rw [none, pow_zero, one_div, ← zpow_natCast, Int.toNat_of_nonneg (by omega), zpow_neg, inv_inv]

namespace Binary

variable {f : Format}

theorem log2_bounds {n : Nat} (positive : 0 < n) :
    (2 : ℚ) ^ (n.log2 : Int) ≤ n ∧ (n : ℚ) < 2 ^ ((n.log2 : Int) + 1) := by
  have below : 2 ^ n.log2 ≤ n := Nat.log2_self_le (by omega)
  have above : n < 2 ^ (n.log2 + 1) := Nat.lt_log2_self
  constructor
  · rw [zpow_natCast]
    exact_mod_cast below
  · have cast : ((n.log2 : Int) + 1) = ((n.log2 + 1 : Nat) : Int) := by push_cast; rfl
    rw [cast, zpow_natCast]
    exact_mod_cast above

/-- The logarithm of a quotient, rounded down. -/
theorem floorLog_bounds {num den : Nat} (numPositive : 0 < num) (denPositive : 0 < den) :
    (2 : ℚ) ^ floorLog num den ≤ (num : ℚ) / den ∧
      (num : ℚ) / den < 2 ^ (floorLog num den + 1) := by
  obtain ⟨numBelow, numAbove⟩ := log2_bounds numPositive
  obtain ⟨denBelow, denAbove⟩ := log2_bounds denPositive
  have den0 : (0 : ℚ) < den := by exact_mod_cast denPositive
  have two : (2 : ℚ) ≠ 0 := by norm_num
  generalize estimated : (num.log2 : Int) - den.log2 = estimate
  have upper : (num : ℚ) / den < 2 ^ (estimate + 1) := by
    rw [div_lt_iff₀ den0]
    calc (num : ℚ) < 2 ^ ((num.log2 : Int) + 1) := numAbove
      _ = 2 ^ (estimate + 1) * 2 ^ (den.log2 : Int) := by
        rw [← zpow_add₀ two]
        congr 1
        omega
      _ ≤ 2 ^ (estimate + 1) * den := by gcongr
  have lower : (2 : ℚ) ^ (estimate - 1) ≤ (num : ℚ) / den := by
    rw [le_div_iff₀ den0]
    calc (2 : ℚ) ^ (estimate - 1) * den ≤ 2 ^ (estimate - 1) * 2 ^ ((den.log2 : Int) + 1) := by
          gcongr
      _ = 2 ^ (num.log2 : Int) := by
        rw [← zpow_add₀ two]
        congr 1
        omega
      _ ≤ num := numBelow
  have test : den * 2 ^ estimate.toNat ≤ num * 2 ^ (-estimate).toNat ↔
      (2 : ℚ) ^ estimate ≤ (num : ℚ) / den := by
    rw [zpow_split, div_le_div_iff₀ (by positivity) den0, ← Nat.cast_le (α := ℚ)]
    push_cast
    rw [mul_comm (den : ℚ)]
  unfold floorLog
  dsimp only
  rw [estimated]
  split
  · next reached => exact ⟨test.mp reached, upper⟩
  · next missed =>
    refine ⟨lower, ?_⟩
    rw [sub_add_cancel]
    exact lt_of_not_ge fun reached => missed (test.mpr reached)

/-- The logarithm is the only place between whose powers a quotient lies. -/
theorem floorLog_eq {num den : Nat} (numPositive : 0 < num) (denPositive : 0 < den) {e : Int}
    (below : (2 : ℚ) ^ e ≤ (num : ℚ) / den) (above : (num : ℚ) / den < 2 ^ (e + 1)) :
    floorLog num den = e := by
  obtain ⟨lower, upper⟩ := floorLog_bounds numPositive denPositive
  have two : (1 : ℚ) < 2 := by norm_num
  have left := (zpow_lt_zpow_iff_right₀ two).mp (lower.trans_lt above)
  have right := (zpow_lt_zpow_iff_right₀ two).mp (below.trans_lt upper)
  omega

/-- A quotient without remainder is its own nearest integer. -/
theorem nearestQuotient_mul (n : Nat) {den : Nat} (positive : 0 < den) :
    nearestQuotient (n * den) den = n := by
  simp [nearestQuotient, Nat.mul_div_cancel _ positive, positive]

theorem magnitude_eq (f : Format) (rank : Nat) :
    magnitude f rank = (significand f rank : ℚ) * (2 : ℚ) ^ exponent f rank := by
  rw [magnitude, scaled_eq]
  norm_num

theorem magnitude_nonneg (f : Format) (rank : Nat) : 0 ≤ magnitude f rank := by
  rw [magnitude_eq]
  positivity

theorem num_div_den_natAbs {q : ℚ} (nonneg : 0 ≤ q) : (q.num.natAbs : ℚ) / q.den = q := by
  have whole : (q.num.natAbs : ℚ) = q.num := by
    rw [← Int.cast_natCast, Int.natAbs_of_nonneg (Rat.num_nonneg.mpr nonneg)]
  rw [whole, Rat.num_div_den]

theorem round_ne_nan (negative : Bool) (size : ℚ) : round f negative size ≠ nan := by
  unfold round
  dsimp only
  generalize (_ : Nat) + nearestQuotient _ _ = reached
  by_cases bound : reached < f.magnitudes <;> simp [bound]

/-- Rounding a magnitude whose last place is known. -/
theorem round_at {q : ℚ} {place : Int} {n : Nat} (value : q = (n : ℚ) * (2 : ℚ) ^ place)
    (isPlace : (if q.num.natAbs = 0 then f.lowest
      else max f.lowest (floorLog q.num.natAbs q.den - f.fractionBits)) = place)
    (rank : Fin f.magnitudes) (ranked : (place - f.lowest).toNat * 2 ^ f.fractionBits + n = rank)
    (negative : Bool) : round f negative q = finite negative rank := by
  have nonneg : 0 ≤ q := by rw [value]; positivity
  have exact : q.num.natAbs * 2 ^ (-place).toNat = n * (q.den * 2 ^ place.toNat) := by
    have den0 : (q.den : ℚ) ≠ 0 := by exact_mod_cast q.den_nz
    have cross : (q.num.natAbs : ℚ) * 2 ^ (-place).toNat = n * (q.den * 2 ^ place.toNat) := by
      have same : (q.num.natAbs : ℚ) / q.den = n * (2 ^ place.toNat / 2 ^ (-place).toNat) := by
        rw [num_div_den_natAbs nonneg, ← zpow_split, ← value]
      field_simp at same
      linarith
    exact_mod_cast cross
  have positive : 0 < q.den * 2 ^ place.toNat := Nat.mul_pos q.den_pos (by positivity)
  unfold round
  dsimp only
  rw [isPlace, exact, nearestQuotient_mul n positive]
  simp only [ranked, Fin.is_lt, dite_true]

/-- Below the first power of two that a significand fills, the lowest place is the last. -/
theorem exponent_eq_lowest {rank : Nat} (subnormal : rank < 2 ^ f.fractionBits) :
    exponent f rank = f.lowest := by
  simp [exponent, Nat.div_eq_of_lt subnormal]

theorem significand_lt (f : Format) (rank : Nat) :
    significand f rank < 2 ^ (f.fractionBits + 1) := by
  have remainder := Nat.mod_lt rank (show 0 < 2 ^ f.fractionBits by positivity)
  rw [Nat.pow_succ, significand]
  split <;> omega

/-- The place that rounding takes is the exponent of the magnitude. -/
theorem place_of_magnitude (f : Format) (rank : Nat) (positive : 0 < magnitude f rank) :
    max f.lowest (floorLog (magnitude f rank).num.natAbs (magnitude f rank).den -
      f.fractionBits) = exponent f rank := by
  have two : (1 : ℚ) < 2 := by norm_num
  have numPositive : 0 < (magnitude f rank).num.natAbs := by
    rw [Int.natAbs_pos]
    exact (Rat.num_pos.mpr positive).ne'
  have denPositive : 0 < (magnitude f rank).den := (magnitude f rank).den_pos
  have fraction := num_div_den_natAbs positive.le
  by_cases subnormal : rank < 2 ^ f.fractionBits
  · obtain ⟨below, -⟩ := floorLog_bounds numPositive denPositive
    have above : magnitude f rank < (2 : ℚ) ^ ((f.fractionBits : Int) + f.lowest) := by
      have small : (significand f rank : ℚ) < 2 ^ f.fractionBits := by
        rw [significand, if_pos subnormal]
        exact_mod_cast subnormal
      rw [magnitude_eq, exponent_eq_lowest subnormal, zpow_add₀ (by norm_num), zpow_natCast]
      gcongr
    rw [fraction] at below
    have bound := (zpow_lt_zpow_iff_right₀ two).mp (below.trans_lt above)
    rw [exponent_eq_lowest subnormal]
    omega
  · have normal : 2 ^ f.fractionBits ≤ significand f rank := by
      rw [significand, if_neg subnormal]
      omega
    have low : (2 : ℚ) ^ f.fractionBits ≤ significand f rank := by exact_mod_cast normal
    have high : (significand f rank : ℚ) < 2 ^ (f.fractionBits + 1) := by
      exact_mod_cast significand_lt f rank
    have logged : floorLog (magnitude f rank).num.natAbs (magnitude f rank).den =
        f.fractionBits + exponent f rank := by
      refine floorLog_eq numPositive denPositive ?_ ?_ <;> rw [fraction, magnitude_eq]
      · rw [zpow_add₀ (by norm_num), zpow_natCast]
        gcongr
      · rw [add_right_comm, zpow_add₀ (by norm_num)]
        have power : ((f.fractionBits : Int) + 1) = ((f.fractionBits + 1 : Nat) : Int) := by
          push_cast
          rfl
        rw [power, zpow_natCast]
        gcongr
    have least : f.lowest ≤ exponent f rank := by
      unfold exponent
      omega
    omega

/-- A rank counts the magnitudes below it, across the powers of two. -/
theorem rank_eq (f : Format) (rank : Nat) :
    (exponent f rank - f.lowest).toNat * 2 ^ f.fractionBits + significand f rank = rank := by
  unfold exponent significand
  split
  · next subnormal => simp [Nat.div_eq_of_lt subnormal]
  · next normal =>
    have parts := Nat.div_add_mod rank (2 ^ f.fractionBits)
    have several : 1 ≤ rank / 2 ^ f.fractionBits :=
      (Nat.le_div_iff_mul_le (by positivity)).mpr (by omega)
    have wide : 2 ^ f.fractionBits ≤ rank / 2 ^ f.fractionBits * 2 ^ f.fractionBits :=
      Nat.le_mul_of_pos_left _ several
    have steps : (f.lowest + ((rank / 2 ^ f.fractionBits - 1 : Nat) : Int) - f.lowest).toNat =
        rank / 2 ^ f.fractionBits - 1 := by omega
    rw [steps, Nat.sub_mul, Nat.one_mul]
    rw [Nat.mul_comm] at parts
    omega

/-- A magnitude that has a rank is met exactly. -/
theorem round_magnitude (f : Format) (negative : Bool) (rank : Fin f.magnitudes) :
    round f negative (magnitude f rank) = finite negative rank := by
  refine round_at (magnitude_eq f rank) ?_ rank (rank_eq f rank) negative
  split
  · next zero =>
    have vanishes : magnitude f rank = 0 := Rat.num_eq_zero.mp (Int.natAbs_eq_zero.mp zero)
    have none : significand f rank = 0 := by
      rw [magnitude_eq] at vanishes
      have power : (2 : ℚ) ^ exponent f rank ≠ 0 := by positivity
      exact_mod_cast (mul_eq_zero.mp vanishes).resolve_right power
    have least : rank.val < 2 ^ f.fractionBits := by
      by_contra normal
      have filled : 0 < 2 ^ f.fractionBits := by positivity
      rw [significand, if_neg normal] at none
      omega
    exact (exponent_eq_lowest least).symm
  · next nonzero =>
    refine place_of_magnitude f rank (lt_of_le_of_ne (magnitude_nonneg f rank) fun vanishes => ?_)
    rw [← vanishes] at nonzero
    exact nonzero rfl

end Binary

end PatternDispatch
