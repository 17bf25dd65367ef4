import PatternDispatch.Proofs.NumberSpelling
import PatternDispatch.Value

/-!
Literals that share a spelling. An integral float is spelled as an integer, and every value compares
with the two alike but one: a scalar array converts a float to single precision and keeps an integer
as it is. Which scalars tell the two apart is said here in full.
-/

namespace PatternDispatch

/-! ## Single precision -/

namespace Binary

variable {f : Format}

/-- Rounding looks at the parts of a quotient only, not at its sign. -/
theorem round_congr {negative : Bool} {q r : ℚ} (num : q.num.natAbs = r.num.natAbs)
    (den : q.den = r.den) : round f negative q = round f negative r := by
  unfold round
  dsimp only
  rw [num, den]

theorem round_zero (f : Format) (negative : Bool) (positive : 0 < f.magnitudes) :
    round f negative 0 = finite negative ⟨0, positive⟩ := by
  have met := round_magnitude f negative ⟨0, positive⟩
  rwa [magnitude_zero] at met

theorem flushed_normal {negative : Bool} {rank : Fin f.magnitudes}
    (normal : 2 ^ f.fractionBits ≤ rank.val) :
    (finite negative rank).flushed = finite negative rank := by
  rw [flushed, if_neg (by omega)]

theorem floorLog_nonneg {num : Nat} (positive : 0 < num) : 0 ≤ floorLog num 1 := by
  have above := (floorLog_bounds positive Nat.one_pos).2
  have one : (1 : ℚ) ≤ num / (1 : Nat) := by
    rw [Nat.cast_one, div_one]
    exact_mod_cast positive
  have power : (2 : ℚ) ^ (0 : Int) < 2 ^ (floorLog num 1 + 1) := by
    rw [zpow_zero]
    exact one.trans_lt above
  have bound := (zpow_lt_zpow_iff_right₀ (by norm_num)).mp power
  omega

/-- An integer other than zero is no subnormal number of single precision. -/
theorem normal_round_int {n : Int} (nonzero : n ≠ 0) (negative : Bool) :
    round .binary32 negative (n : ℚ) = infinity negative ∨
      ∃ rank : Fin Format.binary32.magnitudes,
        round .binary32 negative (n : ℚ) = finite negative rank ∧
          2 ^ Format.binary32.fractionBits ≤ rank.val := by
  have positive : 0 < n.natAbs := Int.natAbs_pos.mpr nonzero
  have log := floorLog_nonneg positive
  have lowest : Format.binary32.lowest = -149 := by decide
  have bits : Format.binary32.fractionBits = 23 := rfl
  unfold round
  dsimp only
  rw [Rat.num_intCast, Rat.den_intCast, if_neg positive.ne', lowest, bits]
  generalize significand : nearestQuotient _ _ = m
  split
  · next bound =>
    refine .inr ⟨_, rfl, ?_⟩
    dsimp only
    omega
  · exact .inl rfl

theorem flushed_round_int (n : Int) (negative : Bool) :
    (round .binary32 negative (n : ℚ)).flushed = round .binary32 negative (n : ℚ) := by
  by_cases zero : n = 0
  · subst zero
    rw [Int.cast_zero, round_zero .binary32 negative (by decide)]
    cases negative <;> decide +kernel
  · rcases normal_round_int zero negative with beyond | ⟨rank, reached, normal⟩
    · rw [beyond]
      rfl
    · rw [reached, flushed_normal normal]

theorem flushed_ofInt (n : Int) :
    (ofInt .binary32 n).flushed = ofInt .binary32 n := flushed_round_int n _

/-- Only zero becomes zero in single precision. -/
theorem isZero_ofInt (n : Int) : (ofInt .binary32 n).isZero = decide (n = 0) := by
  by_cases zero : n = 0
  · subst zero
    rw [ofInt, ofRat, Int.cast_zero, round_zero .binary32 _ (by decide)]
    rfl
  · rw [decide_eq_false zero, ofInt, ofRat]
    rcases normal_round_int zero (decide ((n : ℚ) < 0)) with beyond | ⟨rank, reached, normal⟩
    · rw [beyond]
      rfl
    · rw [reached, isZero, beq_eq_false_iff_ne]
      have filled : 0 < 2 ^ Format.binary32.fractionBits := by decide
      omega

theorem sameValue_iff (x y : Binary f) :
    sameValue x y = true ↔ x ≠ nan ∧ (x = y ∨ x.isZero = true ∧ y.isZero = true) := by
  cases x with
  | nan => simp [sameValue]
  | infinity a => cases y <;> simp [sameValue, isZero]
  | finite a m =>
    cases y with
    | nan | infinity => simp [sameValue, isZero]
    | finite b n =>
      simp only [sameValue, isZero, Bool.and_eq_true, Bool.or_eq_true, beq_iff_eq, ne_eq,
        reduceCtorEq, not_false_eq_true, true_and, finite.injEq]
      constructor
      · rintro ⟨rfl, rfl | zero⟩
        · exact .inl ⟨rfl, rfl⟩
        · exact .inr ⟨zero, zero⟩
      · rintro (⟨rfl, rfl⟩ | ⟨zero, also⟩)
        · exact ⟨rfl, .inl rfl⟩
        · exact ⟨Fin.ext (zero.trans also.symm), .inr zero⟩

/-- Integers have the same value in single precision only if they become the same number. -/
theorem sameValue_ofInt (k n : Int) :
    sameValue (ofInt .binary32 k) (ofInt .binary32 n) = true ↔
      ofInt .binary32 k = ofInt .binary32 n := by
  rw [sameValue_iff, isZero_ofInt, isZero_ofInt]
  constructor
  · rintro ⟨-, same | ⟨zero, also⟩⟩
    · exact same
    · rw [of_decide_eq_true zero, of_decide_eq_true also]
  · exact fun same => ⟨round_ne_nan _ _, .inl same⟩

/-- The two zeros are equal to the same numbers. -/
theorem sameValue_zeros (y : Binary f) {x z : Binary f} (zero : x.isZero = true)
    (also : z.isZero = true) : sameValue y x = sameValue y z := by
  have notNan {u : Binary f} (isZero : u.isZero = true) : u ≠ nan := fun same => by
    rw [same] at isZero
    cases isZero
  rw [Bool.eq_iff_iff, sameValue_iff, sameValue_iff]
  constructor
  · rintro ⟨number, rfl | ⟨yZero, -⟩⟩
    · exact ⟨number, .inr ⟨zero, also⟩⟩
    · exact ⟨number, .inr ⟨yZero, also⟩⟩
  · rintro ⟨number, rfl | ⟨yZero, -⟩⟩
    · exact ⟨number, .inr ⟨also, zero⟩⟩
    · exact ⟨number, .inr ⟨yZero, zero⟩⟩

end Binary

/-! ## Literals that share a spelling -/

namespace Number

variable {literal other : Number} {n : Int} {x : Binary64}

/-- A float that is spelled as an integer is a finite one without a fraction, with its sign. -/
theorem finite_of_normalized (whole : (float x).normalized = .int n) :
    ∃ negative rank, x = .finite negative rank ∧ (Binary.magnitude .binary64 rank).den = 1 ∧
      Binary.magnitude .binary64 rank < 10 ^ 21 ∧
      n = if negative then -(Binary.magnitude .binary64 rank).num
        else (Binary.magnitude .binary64 rank).num := by
  cases x with
  | nan | infinity => cases whole
  | finite negative rank =>
    simp only [normalized] at whole
    split at whole
    · next integral =>
      cases whole
      exact ⟨negative, rank, rfl, integral.1, integral.2, rfl⟩
    · cases whole

theorem eq_of_normalized_float (same : literal.normalized = .float x) : literal = .float x := by
  cases literal with
  | int | truth => cases same
  | float y =>
    cases y with
    | nan | infinity => exact same
    | finite negative rank =>
      simp only [normalized] at same
      split at same
      · cases same
      · exact same

theorem eq_of_normalized_truth {b : Bool} (same : literal.normalized = .truth b) :
    literal = .truth b := by
  cases literal with
  | int => cases same
  | truth => exact same
  | float y =>
    cases y with
    | nan | infinity => cases same
    | finite negative rank =>
      simp only [normalized] at same
      split at same <;> cases same

theorem int_or_float_of_normalized (same : literal.normalized = .int n) :
    literal = .int n ∨ ∃ y, literal = .float y := by
  cases literal with
  | int => exact .inl same
  | truth => cases same
  | float y => exact .inr ⟨y, rfl⟩

/-- Literals that share a spelling have one value. -/
theorem exact_of_normalized (same : literal.normalized = other.normalized) :
    literal.exact = other.exact := by
  rw [← normalized_exact literal, same, normalized_exact]

end Number

/-- A float that is spelled as an integer becomes, in single precision, what the integer becomes. -/
theorem Binary.sameValue_convert {x : Binary64} {n : Int}
    (whole : (Number.float x).normalized = .int n) (y : Binary32) :
    sameValue y (x.convert .binary32).flushed = sameValue y (ofInt .binary32 n) := by
  obtain ⟨negative, rank, rfl, integral, -, value⟩ := Number.finite_of_normalized whole
  have size : magnitude .binary64 rank = ((magnitude .binary64 rank).num : ℚ) :=
    (Rat.coe_int_num_of_den_eq_one integral).symm
  have nonneg : 0 ≤ (magnitude .binary64 rank).num :=
    Rat.num_nonneg.mpr (magnitude_nonneg .binary64 rank)
  generalize (magnitude .binary64 rank).num = m at size nonneg value
  rw [convert, size, flushed_round_int]
  by_cases zero : m = 0
  · subst zero
    have none : n = 0 := by split at value <;> omega
    subst none
    refine sameValue_zeros y ?_ (isZero_ofInt 0)
    rw [Int.cast_zero, round_zero .binary32 negative (by decide)]
    rfl
  · have sign : negative = decide ((n : ℚ) < 0) := by
      cases negative with
      | false =>
        rw [if_neg Bool.false_ne_true] at value
        exact (decide_eq_false (by rw [value]; exact_mod_cast nonneg.not_gt)).symm
      | true =>
        rw [if_pos rfl] at value
        have below : n < 0 := by omega
        exact (decide_eq_true (by exact_mod_cast below)).symm
    have met : round .binary32 negative (m : ℚ) = ofInt .binary32 n := by
      rw [ofInt, ofRat, ← sign]
      refine round_congr ?_ ?_
      · rw [Rat.num_intCast, Rat.num_intCast]
        split at value <;> omega
      · rw [Rat.den_intCast, Rat.den_intCast]
    rw [met]

/-! ## Values that tell them apart -/

namespace Value

variable {v : Value} {literal other : Number} {cells : Cells} {n : Int} {x : Binary64}

/-- The cells of a scalar array of numbers. -/
def scalarCells? (v : Value) : Option Cells :=
  match v.underlying with
  | array cells => if cells.isScalar && !cells.isTruth then some cells.cells else none
  | _ => none

theorem numberEquals_scalar (scalar : v.scalarCells? = some cells) :
    v.numberEquals literal = cellEquals cells literal := by
  unfold scalarCells? at scalar
  unfold numberEquals
  split at scalar
  · next found same =>
    rw [same]
    dsimp only
    split at scalar
    · next numeric =>
      cases scalar
      rw [if_pos numeric]
    · cases scalar
  · cases scalar

/-- Every other value looks at the value of a literal only. -/
theorem numberEquals_exact (plain : v.scalarCells? = none) (same : literal.exact = other.exact) :
    v.numberEquals literal = v.numberEquals other := by
  unfold scalarCells? at plain
  unfold numberEquals
  cases base : v.underlying with
  | array found =>
    rw [base] at plain
    dsimp only at plain ⊢
    split at plain
    · cases plain
    · next other => rw [if_neg other, if_neg other]
  | decimal d =>
    cases d with
    | nan signals => cases signals <;> rfl
    | _ => simp only [same]
  | _ => simp only [same]

/-- Whether a value answers two spellings of a literal differently. -/
def IsSensitive (v : Value) (literal : Number) : Prop :=
  ∃ a b : Number, a.normalized = literal.normalized ∧ b.normalized = literal.normalized ∧
    v.numberEquals a ≠ v.numberEquals b

/-- A float has a place in every array. -/
theorem cellEquals_float_ne_error {e : ComparisonError} :
    cellEquals cells (.float x) ≠ .error e := by
  simp only [cellEquals, cellLiteral]
  split <;> simp

/-- A scalar answers two floats that are spelled as the same integer alike. -/
theorem cellEquals_floats {y : Binary64} (whole : (Number.float x).normalized = .int n)
    (also : (Number.float y).normalized = .int n) :
    cellEquals cells (.float x) = cellEquals cells (.float y) := by
  simp only [cellEquals, cellLiteral, Binary.sameValue_convert whole,
    Binary.sameValue_convert also]

/-- A scalar answers a float and the integer it is spelled as alike, if the integer has a place in
its cells and is not confused with that of the scalar. -/
theorem cellEquals_int (whole : (Number.float x).normalized = .int n) (fits : int32Range n = true)
    (clear : ∀ k, cells = .int32 [k] →
      Binary.ofInt .binary32 k = Binary.ofInt .binary32 n → k = n) :
    cellEquals cells (.float x) = cellEquals cells (.int n) := by
  simp only [cellEquals, cellLiteral, fits, if_true, Binary.sameValue_convert whole,
    Binary.flushed_ofInt]
  match cells with
  | .int32 [k] =>
    apply congrArg Except.ok
    rw [Bool.eq_iff_iff, Binary.sameValue_ofInt, beq_iff_eq]
    exact ⟨clear k rfl, fun same => by rw [same]⟩
  | .float32 [_] | .int32 [] | .int32 (_ :: _ :: _) | .float32 [] | .float32 (_ :: _ :: _)
  | .truth _ => rfl

/-- A scalar tells a float from the integer it is spelled as if the integer has no place in an array
or is confused with that of the scalar. -/
theorem cellEquals_differ_iff (whole : (Number.float x).normalized = .int n) :
    cellEquals cells (.float x) ≠ cellEquals cells (.int n) ↔
      int32Range n = false ∨ ∃ k, cells = .int32 [k] ∧ k ≠ n ∧
        Binary.ofInt .binary32 k = Binary.ofInt .binary32 n := by
  constructor
  · intro differ
    by_contra neither
    push Not at neither
    rw [ne_eq, Bool.not_eq_false] at neither
    refine differ (cellEquals_int whole neither.1 fun k isCell same => ?_)
    by_contra other
    exact neither.2 k isCell other same
  · intro apart
    cases fits : int32Range n with
    | false =>
      have refused : cellEquals cells (.int n) = .error .overflow := by
        simp only [cellEquals, cellLiteral, fits, Bool.false_eq_true, if_false]
      rw [refused]
      exact cellEquals_float_ne_error
    | true =>
      obtain ⟨k, rfl, other, same⟩ := apart.resolve_left (by rw [fits]; exact Bool.noConfusion)
      simp only [cellEquals, cellLiteral, fits, if_true, Binary.sameValue_convert whole,
        (Binary.sameValue_ofInt k n).mpr same, beq_eq_false_iff_ne.mpr other]
      exact fun wrong => Bool.noConfusion (Except.ok.inj wrong)

/-- The values that tell two spellings of a literal apart are scalar arrays of numbers, and the
literal is an integer that is also the value of a float: either it has no place in an array, or the
scalar is another integer that becomes the same number in single precision. -/
theorem isSensitive_iff :
    v.IsSensitive literal ↔
      ∃ n x cells, literal.normalized = .int n ∧ (Number.float x).normalized = .int n ∧
        v.scalarCells? = some cells ∧ (int32Range n = false ∨
          ∃ k, cells = .int32 [k] ∧ k ≠ n ∧
            Binary.ofInt .binary32 k = Binary.ofInt .binary32 n) := by
  constructor
  · rintro ⟨a, b, spelled, also, differ⟩
    cases scalar : v.scalarCells? with
    | none =>
      exact absurd (numberEquals_exact scalar (Number.exact_of_normalized (spelled.trans also.symm)))
        differ
    | some cells =>
      rw [numberEquals_scalar scalar, numberEquals_scalar scalar] at differ
      cases normal : literal.normalized with
      | float y =>
        rw [normal] at spelled also
        rw [Number.eq_of_normalized_float spelled, Number.eq_of_normalized_float also] at differ
        exact absurd rfl differ
      | truth c =>
        rw [normal] at spelled also
        rw [Number.eq_of_normalized_truth spelled, Number.eq_of_normalized_truth also] at differ
        exact absurd rfl differ
      | int n =>
        rw [normal] at spelled also
        rcases Number.int_or_float_of_normalized spelled with rfl | ⟨x, rfl⟩ <;>
          rcases Number.int_or_float_of_normalized also with rfl | ⟨y, rfl⟩
        · exact absurd rfl differ
        · exact ⟨n, y, cells, rfl, also, rfl, (cellEquals_differ_iff also).mp differ.symm⟩
        · exact ⟨n, x, cells, rfl, spelled, rfl, (cellEquals_differ_iff spelled).mp differ⟩
        · exact absurd (cellEquals_floats spelled also) differ
  · rintro ⟨n, x, cells, normal, whole, scalar, apart⟩
    refine ⟨.float x, .int n, whole.trans normal.symm, normal.symm, ?_⟩
    rw [numberEquals_scalar scalar, numberEquals_scalar scalar]
    exact (cellEquals_differ_iff whole).mpr apart

end Value

end PatternDispatch
