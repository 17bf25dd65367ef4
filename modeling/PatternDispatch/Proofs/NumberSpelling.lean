import Mathlib.Data.Nat.Prime.Basic
import PatternDispatch.Proofs.BinaryRounding
import PatternDispatch.Proofs.NumeralReading
import PatternDispatch.Number.Exact

/-!
The one spelling of a number is read back as that number. A float is written by the shortest decimal
that rounds to it, so what is left to show is that each layout of a decimal keeps its value; an
integral float of fewer than twenty-two digits is written, and read back, as an integer.
-/

namespace PatternDispatch

open Character

namespace Binary

variable {f : Format}

/-- The sign does not take part in rounding. -/
theorem round_sign {size : ℚ} {rank : Fin f.magnitudes}
    (rounded : round f false size = finite false rank)
    (negative : Bool) : round f negative size = finite negative rank := by
  unfold round at rounded ⊢
  dsimp only at rounded ⊢
  generalize (_ : Nat) + nearestQuotient _ _ = reached at rounded ⊢
  split at rounded
  · next bound =>
    cases rounded
    exact dif_pos bound
  · cases rounded

theorem magnitude_zero (f : Format) : magnitude f 0 = 0 := by
  have none : significand f 0 = 0 := if_pos (by positivity)
  rw [magnitude_eq, none]
  simp

/-- The denominator of a magnitude is a power of two within the range of the format. -/
theorem magnitude_den (f : Format) (rank : Nat) :
    ∃ k : Nat, (magnitude f rank).den = 2 ^ k ∧ (k : Int) ≤ Decimal.reach f := by
  have power : (magnitude f rank).den ∣ 2 ^ (-exponent f rank).toNat := by
    have quotient : magnitude f rank =
        ((significand f rank * 2 ^ (exponent f rank).toNat : Int) : ℚ) /
          ((2 ^ (-exponent f rank).toNat : Int) : ℚ) := by
      rw [magnitude_eq, zpow_split]
      push_cast
      ring
    have divides := Rat.den_dvd (significand f rank * 2 ^ (exponent f rank).toNat)
      (2 ^ (-exponent f rank).toNat)
    rw [Rat.divInt_eq_div, ← quotient] at divides
    exact_mod_cast divides
  obtain ⟨k, bound, same⟩ := (Nat.dvd_prime_pow Nat.prime_two).mp power
  refine ⟨k, same, ?_⟩
  have least : f.lowest ≤ exponent f rank := by
    unfold exponent
    omega
  have half : 2 ^ (f.exponentBits - 1) ≤ 2 ^ f.exponentBits :=
    Nat.pow_le_pow_right (by omega) (by omega)
  have lowest : f.lowest = 2 - ((2 ^ (f.exponentBits - 1) : Nat) : Int) - f.fractionBits := by
    rw [Format.lowest]
    push_cast
    rfl
  have reach : (Decimal.reach f : Int) = ((2 ^ f.exponentBits : Nat) : Int) + f.fractionBits := by
    rw [Decimal.reach]
    push_cast
    rfl
  omega

end Binary

namespace Decimal

variable {f : Format}

theorem toRat_eq (d : Decimal) : d.toRat = (d.coefficient : ℚ) * (10 : ℚ) ^ d.exponent := by
  rw [toRat, scaled_eq]
  norm_num

theorem digitCount_pos (d : Decimal) : 0 < d.digitCount :=
  List.length_pos_iff.mpr (Text.decimalDigits_ne_nil _)

theorem ofDyadic_toRat {q : ℚ} (nonneg : 0 ≤ q) {k : Nat} (dyadic : q.den = 2 ^ k) :
    (ofDyadic q).toRat = q := by
  have places : q.den.log2 = k := by rw [dyadic, Nat.log2_two_pow]
  have ten : (10 : ℚ) ^ (-(k : Int)) = (5 ^ k * 2 ^ k)⁻¹ := by
    rw [zpow_neg, zpow_natCast, ← mul_pow]
    norm_num
  rw [toRat_eq, ofDyadic]
  simp only [places, ten]
  conv_rhs => rw [← Binary.num_div_den_natAbs nonneg, dyadic]
  push_cast
  field_simp

/-- Within reach of the format, a decimal is rounded by its value. -/
theorem round_near {d : Decimal} {negative : Bool} (nonzero : d.coefficient ≠ 0)
    (below : d.exponent ≤ reach f) (above : -(reach f : Int) ≤ d.digitCount + d.exponent) :
    d.round f negative = Binary.round f negative d.toRat := by
  rw [round, if_neg nonzero, if_neg (by omega), if_neg (by omega)]

/-- The decimal that is written for a rank rounds to it, whichever candidate is taken. -/
theorem shortest_round (f : Format) (rank : Fin f.magnitudes) :
    (shortest f rank).round f false = .finite false rank := by
  unfold shortest
  dsimp only
  generalize candidates : (List.range 17).flatMap _ = decimals
  cases found : decimals.find? fun d => d.round f false = .finite false rank with
  | some d => simpa using List.find?_some found
  | none =>
    -- The decimal in full is no candidate, but it is the magnitude itself.
    obtain ⟨k, dyadic, bound⟩ := Binary.magnitude_den f rank
    have same := ofDyadic_toRat (Binary.magnitude_nonneg f rank) dyadic
    have places : (Binary.magnitude f rank).den.log2 = k := by rw [dyadic, Nat.log2_two_pow]
    simp only [Option.getD_none]
    generalize full : ofDyadic (Binary.magnitude f rank) = d at same ⊢
    have exponent : d.exponent = -(k : Int) := by rw [← full, ofDyadic, places]
    have count := d.digitCount_pos
    by_cases zero : d.coefficient = 0
    · have vanishes : Binary.magnitude f rank = 0 := by
        rw [← same, toRat_eq, zero]
        simp
      rw [round, if_pos zero, ← vanishes]
      exact Binary.round_magnitude f false rank
    · rw [round_near zero (by omega) (by omega), same]
      exact Binary.round_magnitude f false rank

/-- A decimal that rounds to a positive rank has digits. -/
theorem coefficient_ne_zero {d : Decimal} {rank : Fin f.magnitudes}
    (rounded : d.round f false = .finite false rank) (positive : 0 < Binary.magnitude f rank) :
    d.coefficient ≠ 0 := by
  intro zero
  have least : Binary.round f false 0 = .finite false ⟨0, rank.pos⟩ := by
    have met := Binary.round_magnitude f false ⟨0, rank.pos⟩
    rwa [Binary.magnitude_zero] at met
  rw [round, if_pos zero, least] at rounded
  have isZero : 0 = rank.val := congrArg Fin.val (Binary.finite.inj rounded).2
  rw [← isZero, Binary.magnitude_zero] at positive
  exact lt_irrefl 0 positive

theorem round_sign {d : Decimal} {rank : Fin f.magnitudes}
    (rounded : d.round f false = .finite false rank) (negative : Bool) :
    d.round f negative = .finite negative rank := by
  unfold round at rounded ⊢
  split at rounded
  · next zero =>
    rw [if_pos zero]
    exact Binary.round_sign rounded negative
  · next positive =>
    rw [if_neg positive]
    split at rounded
    · cases rounded
    · next near =>
      rw [if_neg near]
      split at rounded
      · next tiny =>
        rw [if_pos tiny]
        exact Binary.round_sign rounded negative
      · next fits =>
        rw [if_neg fits]
        exact Binary.round_sign rounded negative

/-! ## Layouts -/

/-- A sign, digits and zeros, and a point among them. -/
def positionalNumeral (d : Decimal) (negative : Bool) : Numeral :=
  let digits := Text.ofNat d.coefficient
  let place : Int := digits.length + d.exponent
  if place ≤ 0 then
    ⟨negative, ['0'.toNat], some (List.replicate (-place).toNat '0'.toNat ++ digits), none⟩
  else if 0 ≤ d.exponent then
    ⟨negative, digits ++ List.replicate d.exponent.toNat '0'.toNat, some ['0'.toNat], none⟩
  else ⟨negative, digits.take place.toNat, some (digits.drop place.toNat), none⟩

def scientificNumeral (d : Decimal) (negative : Bool) : Numeral :=
  let digits := Text.ofNat d.coefficient
  let power : Int := digits.length + d.exponent - 1
  let powerDigits := Text.ofNat power.natAbs
  ⟨negative, digits.take 1, if digits.length = 1 then none else some (digits.drop 1),
    some (decide (power < 0), (if powerDigits.length = 1 then ['0'.toNat] else []) ++ powerDigits)⟩

def numeral (d : Decimal) (negative : Bool) : Numeral :=
  let place : Int := d.digitCount + d.exponent
  if -4 < place ∧ place ≤ 16 then d.positionalNumeral negative else d.scientificNumeral negative

theorem positionalNumeral_text (d : Decimal) (negative : Bool) :
    (d.positionalNumeral negative).text true = Number.signed negative d.positionalSpelling := by
  unfold positionalNumeral positionalSpelling
  dsimp only
  split
  · simp [Numeral.text, Numeral.unsignedText, Numeral.fractionText, Numeral.exponentText,
      show Text.ofString "0." = ['0'.toNat, '.'.toNat] from rfl]
  · split
    · simp [Numeral.text, Numeral.unsignedText, Numeral.fractionText, Numeral.exponentText,
        show Text.ofString ".0" = ['.'.toNat, '0'.toNat] from rfl]
    · simp [Numeral.text, Numeral.unsignedText, Numeral.fractionText, Numeral.exponentText]

theorem scientificNumeral_text (d : Decimal) (negative : Bool) :
    (d.scientificNumeral negative).text true = Number.signed negative d.scientificSpelling := by
  unfold scientificNumeral scientificSpelling power
  dsimp only
  have marked (below : Prop) [Decidable below] (digits : Text) :
      Numeral.exponentText true (some (decide below, digits)) =
        'e'.toNat :: (if below then '-' else '+').toNat :: digits := by
    by_cases negative : below <;> simp [negative, Numeral.exponentText]
  simp only [Numeral.text, Numeral.unsignedText, marked]
  split <;> simp [Numeral.fractionText]

theorem numeral_text (d : Decimal) (negative : Bool) :
    (d.numeral negative).text true = Number.signed negative d.spelling := by
  unfold numeral spelling
  dsimp only
  split
  · exact positionalNumeral_text d negative
  · exact scientificNumeral_text d negative

/-! ## The parts of a layout -/

section Layouts

variable {d : Decimal} {negative : Bool}

/-- The digits of a positive coefficient begin with one that is not zero. -/
theorem exists_digits (nonzero : d.coefficient ≠ 0) :
    ∃ b bs, Text.ofNat d.coefficient = b :: bs ∧ b ≠ '0'.toNat := by
  obtain ⟨first, others, same, positive⟩ := Text.decimalDigits_head (Nat.pos_of_ne_zero nonzero)
  refine ⟨'0'.toNat + first, Text.ofDigits others, by simp [Text.ofNat, same, Text.ofDigits], ?_⟩
  unfold CodePoint
  omega

theorem isWhole_of_head {b : CodePoint} {bs : Text} (nonzero : b ≠ '0'.toNat)
    (digits : ∀ c ∈ b :: bs, isDigit c = true) : Numeral.IsWhole (b :: bs) :=
  ⟨⟨by simp, digits⟩, fun head => absurd (Option.some.inj head) nonzero⟩

theorem areDigits_append {s t : Text} (digits : ∀ c ∈ s, isDigit c = true)
    (areDigits : Numeral.AreDigits t) : Numeral.AreDigits (s ++ t) :=
  ⟨by simp [areDigits.1], fun c member => (List.mem_append.mp member).elim (digits c)
    (areDigits.2 c)⟩

theorem zeros_isDigit (count : Nat) : ∀ c ∈ List.replicate count '0'.toNat, isDigit c = true := by
  intro c member
  rw [List.eq_of_mem_replicate member]
  rfl

theorem positionalNumeral_written (nonzero : d.coefficient ≠ 0) :
    (d.positionalNumeral negative).Written := by
  obtain ⟨b, bs, same, first⟩ := exists_digits nonzero
  have digits := Text.ofNat_isDigit d.coefficient
  unfold positionalNumeral
  dsimp only
  rw [same] at digits ⊢
  split
  · next front =>
    refine ⟨⟨⟨by simp, by simp [isDigit]⟩, fun _ => rfl⟩, fun _ taken => ?_, by simp⟩
    cases taken
    exact areDigits_append (zeros_isDigit _) ⟨by simp, digits⟩
  · next inside =>
    split
    · refine ⟨isWhole_of_head first ?_, fun _ taken => ?_, by simp⟩
      · intro c member
        have parts : c ∈ (b :: bs) ++ List.replicate d.exponent.toNat '0'.toNat := member
        exact (List.mem_append.mp parts).elim (digits c) (zeros_isDigit _ c)
      · cases taken
        exact ⟨by simp, by simp [isDigit]⟩
    · next negativeExponent =>
      obtain ⟨place, places⟩ : ∃ k : Nat, (((b :: bs).length : Int) + d.exponent).toNat = k + 1 :=
        ⟨(((b :: bs).length : Int) + d.exponent).toNat - 1, by omega⟩
      rw [places]
      refine ⟨isWhole_of_head first fun c member => digits c (List.mem_of_mem_take (i := place + 1)
        member), fun _ taken => ?_, by simp⟩
      cases taken
      refine ⟨?_, fun c member => digits c (List.mem_of_mem_drop member)⟩
      rw [ne_eq, List.drop_eq_nil_iff]
      omega

theorem scientificNumeral_written (nonzero : d.coefficient ≠ 0) :
    (d.scientificNumeral negative).Written := by
  obtain ⟨b, bs, same, first⟩ := exists_digits nonzero
  have digits := Text.ofNat_isDigit d.coefficient
  unfold scientificNumeral
  dsimp only
  rw [same] at digits ⊢
  refine ⟨isWhole_of_head first fun c member => digits c (List.mem_of_mem_take (i := 1) member),
    fun _ taken => ?_, fun _ _ taken => ?_⟩
  · simp only [Option.ite_none_left_eq_some, Option.some.injEq] at taken
    obtain ⟨several, rfl⟩ := taken
    refine ⟨fun none => several ?_, fun c member => digits c (List.mem_of_mem_drop member)⟩
    rw [List.drop_eq_nil_iff] at none
    exact Nat.le_antisymm none (by simp)
  · cases taken
    refine areDigits_append (fun c member => ?_) ⟨Text.ofNat_ne_nil _, Text.ofNat_isDigit _⟩
    split at member
    · rw [List.mem_singleton.mp member]
      rfl
    · cases member

theorem numeral_written (nonzero : d.coefficient ≠ 0) : (d.numeral negative).Written := by
  unfold numeral
  dsimp only
  split
  · exact positionalNumeral_written nonzero
  · exact scientificNumeral_written nonzero

/-! ## The value of a layout -/

theorem scientificNumeral_magnitude (d : Decimal) (negative : Bool) :
    (d.scientificNumeral negative).magnitude = d := by
  have count := List.length_pos_iff.mpr (Text.ofNat_ne_nil d.coefficient)
  have value := Text.readDecimal_ofNat d.coefficient
  have padded (n : Nat) (pad : Text) (zero : Text.readDecimal pad = 0) :
      Text.readDecimal (pad ++ Text.ofNat n) = n := by
    rw [Text.readDecimal_append, zero, Text.readDecimal_ofNat]
    omega
  have power (p : Int) : Text.readDecimal ((if (Text.ofNat p.natAbs).length = 1 then ['0'.toNat]
      else []) ++ Text.ofNat p.natAbs) = p.natAbs :=
    padded _ _ (by split <;> rfl)
  have restored (p : Int) :
      (if decide (p < 0) = true then -(p.natAbs : Int) else (p.natAbs : Int)) = p := by
    simp only [decide_eq_true_eq]
    split <;> omega
  obtain ⟨coefficient, exponent⟩ := d
  unfold scientificNumeral Numeral.magnitude
  simp only [power, restored] at count value ⊢
  split
  · next single =>
    rw [Option.getD_none, List.append_nil, List.take_of_length_le (by omega), value, single]
    simp
  · next several =>
    rw [Option.getD_some, List.take_append_drop, value, List.length_drop]
    congr 1
    omega

/-- Every positional layout but the one with zeros behind the digits keeps the coefficient. -/
theorem positionalNumeral_magnitude (d : Decimal) (negative : Bool) :
    (d.positionalNumeral negative).magnitude =
      if 0 < (Text.ofNat d.coefficient).length + d.exponent ∧ 0 ≤ d.exponent then
        ⟨d.coefficient * 10 ^ (d.exponent.toNat + 1), -1⟩
      else d := by
  have value := Text.readDecimal_ofNat d.coefficient
  obtain ⟨coefficient, exponent⟩ := d
  unfold positionalNumeral Numeral.magnitude
  simp only at value ⊢
  split
  · next front =>
    rw [if_neg (by omega)]
    have zero : Text.readDecimal ['0'.toNat] = 0 := rfl
    simp only [Option.getD_some]
    rw [Text.readDecimal_append, zero, Text.readDecimal_append, Text.readDecimal_zeros, value,
      List.length_append, List.length_replicate]
    congr 1
    · omega
    · push_cast
      omega
  · next inside =>
    split
    · next whole =>
      rw [if_pos ⟨by omega, whole⟩]
      have zero : Text.readDecimal ['0'.toNat] = 0 := rfl
      simp only [Option.getD_some]
      rw [Text.readDecimal_append, Text.readDecimal_append, Text.readDecimal_zeros, zero, value,
        List.length_replicate, List.length_singleton]
      congr 1
      ring
    · next negativeExponent =>
      rw [if_neg (by omega)]
      simp only [Option.getD_some]
      rw [List.take_append_drop, value, List.length_drop]
      congr 1
      omega

/-- Zeros behind the digits do not change what a decimal rounds to. -/
theorem round_zeros {d : Decimal} (nonzero : d.coefficient ≠ 0) (negative : Bool)
    (near : d.digitCount + d.exponent ≤ 16) (nonneg : 0 ≤ d.exponent) :
    (Decimal.mk (d.coefficient * 10 ^ (d.exponent.toNat + 1)) (-1)).round .binary64 negative =
      d.round .binary64 negative := by
  have reach : (reach .binary64 : Int) = 2100 := rfl
  have count := d.digitCount_pos
  have positive : d.coefficient * 10 ^ (d.exponent.toNat + 1) ≠ 0 := by positivity
  have longer : (Decimal.mk (d.coefficient * 10 ^ (d.exponent.toNat + 1)) (-1)).digitCount =
      d.digitCount + (d.exponent.toNat + 1) :=
    Text.decimalDigits_zeros _ (Nat.pos_of_ne_zero nonzero) _
  have same : (Decimal.mk (d.coefficient * 10 ^ (d.exponent.toNat + 1)) (-1)).toRat = d.toRat := by
    have power : (10 : ℚ) ^ d.exponent = 10 ^ d.exponent.toNat := by
      rw [← zpow_natCast, Int.toNat_of_nonneg nonneg]
    rw [toRat_eq, toRat_eq, power, pow_succ]
    push_cast
    field_simp
  have exponent : (Decimal.mk (d.coefficient * 10 ^ (d.exponent.toNat + 1)) (-1)).exponent = -1 :=
    rfl
  rw [round_near positive (by omega) (by omega), round_near nonzero (by omega) (by omega), same]

/-- A decimal that is written out is read back as the number it rounds to. -/
theorem numeral_read {d : Decimal} (nonzero : d.coefficient ≠ 0) (negative : Bool) :
    (d.numeral negative).read = .ok (.float (d.round .binary64 negative)) := by
  have fractional : ¬((d.numeral negative).fraction = none ∧ (d.numeral negative).exponent = none) := by
    unfold numeral positionalNumeral scientificNumeral
    dsimp only
    split
    · split
      · simp
      · split <;> simp
    · simp
  have rounded : (d.numeral negative).magnitude.round .binary64 negative =
      d.round .binary64 negative := by
    unfold numeral
    dsimp only
    split
    · next near =>
      rw [positionalNumeral_magnitude]
      split
      · next zeros => exact round_zeros nonzero negative near.2 zeros.2
      · rfl
    · rw [scientificNumeral_magnitude]
  have sign : (d.numeral negative).negative = negative := by
    unfold numeral positionalNumeral scientificNumeral
    dsimp only
    split
    · split
      · rfl
      · split <;> rfl
    · rfl
  rw [Numeral.read, if_neg fractional, sign, rounded]

end Layouts

end Decimal

/-! ## Numbers -/

namespace Number

/-- The number that the spelling of a number denotes: an integral float below `10 ^ 21` becomes the
integer of the same value. -/
def normalized : Number → Number
  | float (.finite negative rank) =>
    let size := Binary.magnitude .binary64 rank
    if size.den = 1 ∧ size < 10 ^ 21 then int (if negative then -size.num else size.num)
    else float (.finite negative rank)
  | n => n

/-- A number that a literal can denote. -/
def IsLiteral : Number → Prop
  | int value => (Text.decimalDigits value.natAbs).length ≤ Numeral.digitLimit
  | float value => value ≠ .nan
  | truth _ => False

theorem normalized_spelling (n : Number) : n.normalized.spelling = n.spelling := by
  cases n with
  | int | truth => rfl
  | float value =>
    cases value with
    | nan | infinity => rfl
    | finite negative rank =>
      simp only [normalized]
      split
      · next integral => exact (if_pos integral).symm
      · rfl

/-- An integral number keeps its value as an integer. -/
theorem normalized_exact (n : Number) : n.normalized.exact = n.exact := by
  cases n with
  | int | truth => rfl
  | float value =>
    cases value with
    | nan | infinity => rfl
    | finite negative rank =>
      simp only [normalized]
      split
      · next integral =>
        have whole : ((Binary.magnitude .binary64 rank).num : ℚ) = Binary.magnitude .binary64 rank :=
          Rat.coe_int_num_of_den_eq_one integral.1
        cases negative with
        | false => exact congrArg Exact.rational whole
        | true =>
          apply congrArg Exact.rational
          rw [← whole]
          simp
      · rfl

def intNumeral (value : Int) : Numeral := ⟨decide (value < 0), Text.ofNat value.natAbs, none, none⟩

theorem intNumeral_text (plus : Bool) (value : Int) :
    (intNumeral value).text plus = Text.ofInt value := by
  by_cases negative : value < 0 <;>
    simp [intNumeral, Numeral.text, Numeral.unsignedText, Numeral.fractionText,
      Numeral.exponentText, signed, Text.ofInt, negative]

theorem ofNat_isWhole (n : Nat) : Numeral.IsWhole (Text.ofNat n) := by
  rcases Nat.eq_zero_or_pos n with rfl | positive
  · have zero : Text.ofNat 0 = ['0'.toNat] := by
      simp [Text.ofNat, Text.ofDigits, Text.decimalDigits_small]
    rw [zero]
    exact ⟨⟨by simp, by simp [isDigit]⟩, fun _ => rfl⟩
  · obtain ⟨b, bs, same, first⟩ := Decimal.exists_digits (d := ⟨n, 0⟩) positive.ne'
    have digits := Text.ofNat_isDigit n
    simp only at same
    rw [same] at digits ⊢
    exact Decimal.isWhole_of_head first digits

theorem intNumeral_written (value : Int) : (intNumeral value).Written :=
  ⟨ofNat_isWhole _, fun _ none => (nomatch none), fun _ _ none => (nomatch none)⟩

theorem intNumeral_read {value : Int} (isLiteral : (int value).IsLiteral) :
    (intNumeral value).read = .ok (int value) := by
  have short : ¬Numeral.digitLimit < (Text.ofNat value.natAbs).length := by
    rw [Text.length_ofNat]
    exact Nat.not_lt.mpr isLiteral
  simp only [intNumeral, Numeral.read, and_self, if_true, if_neg short, Text.readDecimal_ofNat,
    decide_eq_true_eq]
  congr 2
  split <;> omega

def infinityNumeral (negative : Bool) : Numeral :=
  ⟨negative, Text.ofString "1", none, some (false, Text.ofString "999")⟩

theorem infinityNumeral_read (negative : Bool) :
    (infinityNumeral negative).read = .ok (float (.infinity negative)) := by
  have beyond : (Decimal.mk 1 999).round .binary64 negative = .infinity negative := by
    cases negative <;> decide +kernel
  have magnitude : (infinityNumeral negative).magnitude = ⟨1, 999⟩ := by
    cases negative <;> decide
  have fractional : ¬((infinityNumeral negative).fraction = none ∧
      (infinityNumeral negative).exponent = none) := fun absent => nomatch absent.2
  rw [Numeral.read, if_neg fractional, magnitude]
  exact congrArg (fun value => Except.ok (float value)) beyond

/-- The spelling of a literal is a numeral that denotes it, normalized. -/
theorem exists_numeral {n : Number} (isLiteral : n.IsLiteral) :
    ∃ plus numeral, Numeral.text plus numeral = n.spelling ∧ numeral.Written ∧
      numeral.read = .ok n.normalized := by
  cases n with
  | int value =>
    exact ⟨true, intNumeral value, intNumeral_text _ _, intNumeral_written _,
      intNumeral_read isLiteral⟩
  | truth => exact isLiteral.elim
  | float value =>
    cases value with
    | nan => exact absurd rfl isLiteral
    | infinity negative =>
      refine ⟨false, infinityNumeral negative, ?_, ?_, infinityNumeral_read negative⟩
      · cases negative <;> rfl
      · have whole : Numeral.IsWhole (Text.ofString "1") := ⟨⟨by decide, by decide⟩, by decide⟩
        refine ⟨whole, fun _ none => (nomatch none), fun _ _ taken => ?_⟩
        cases taken
        exact ⟨by decide, by decide⟩
    | finite negative rank =>
      simp only [spelling, floatSpelling, normalized]
      split
      · next integral =>
        refine ⟨true, intNumeral _, intNumeral_text _ _, intNumeral_written _, intNumeral_read ?_⟩
        have nonneg := Binary.magnitude_nonneg .binary64 rank
        have whole : ((Binary.magnitude .binary64 rank).num : ℚ) = Binary.magnitude .binary64 rank :=
          Rat.coe_int_num_of_den_eq_one integral.1
        have small : (Binary.magnitude .binary64 rank).num < 10 ^ 21 := by
          have below := integral.2
          rw [← whole] at below
          exact_mod_cast below
        have lower := Rat.num_nonneg.mpr nonneg
        have digits : (Text.decimalDigits (Binary.magnitude .binary64 rank).num.natAbs).length ≤ 21 :=
          Text.decimalDigits_length_le (by omega) (by omega)
        have same : (if negative = true then -(Binary.magnitude .binary64 rank).num
            else (Binary.magnitude .binary64 rank).num).natAbs =
              (Binary.magnitude .binary64 rank).num.natAbs := by
          split <;> omega
        rw [IsLiteral, same]
        exact digits.trans (by decide)
      · next fractional =>
        have rounded := Decimal.shortest_round .binary64 rank
        have positive : 0 < Binary.magnitude .binary64 rank := by
          refine lt_of_le_of_ne (Binary.magnitude_nonneg _ _) fun zero => fractional ?_
          rw [← zero]
          exact ⟨rfl, by norm_num⟩
        have nonzero := Decimal.coefficient_ne_zero rounded positive
        refine ⟨true, _, Decimal.numeral_text _ _, Decimal.numeral_written nonzero, ?_⟩
        rw [Decimal.numeral_read nonzero, Decimal.round_sign rounded]

/-- A whole number with a fraction, which makes it a float. -/
def pointedNumeral (negative : Bool) (size : Nat) : Numeral :=
  ⟨negative, Text.ofNat size, some (Text.ofString "0"), none⟩

theorem pointedNumeral_written (negative : Bool) (size : Nat) :
    (pointedNumeral negative size).Written := by
  refine ⟨ofNat_isWhole _, fun digits taken => ?_, fun _ _ none => (nomatch none)⟩
  cases taken
  exact ⟨by decide, by decide⟩

/-- An integral float is denoted by its digits with a fraction of zero. -/
theorem pointedNumeral_read {rank : Fin (Format.magnitudes .binary64)} (negative : Bool)
    (integral : (Binary.magnitude .binary64 rank).den = 1) :
    (pointedNumeral negative (Binary.magnitude .binary64 rank).num.natAbs).read =
      .ok (float (.finite negative rank)) := by
  have met := Binary.round_magnitude .binary64 negative rank
  have whole := Binary.num_div_den_natAbs (Binary.magnitude_nonneg .binary64 rank)
  rw [integral, Nat.cast_one, div_one] at whole
  generalize (Binary.magnitude .binary64 rank).num.natAbs = size at whole ⊢
  have magnitude : (pointedNumeral negative size).magnitude = ⟨size * 10, -1⟩ := by
    have digits : Text.readDecimal (Text.ofNat size ++ Text.ofString "0") = size * 10 := by
      rw [Text.readDecimal_append, Text.readDecimal_ofNat]
      rfl
    simp only [pointedNumeral, Numeral.magnitude, Option.getD_some, digits]
    rfl
  have value : (Decimal.mk (size * 10) (-1)).toRat = Binary.magnitude .binary64 rank := by
    rw [Decimal.toRat_eq, ← whole, zpow_neg_one]
    push_cast
    ring
  have rounded : (Decimal.mk (size * 10) (-1)).round .binary64 negative = .finite negative rank := by
    by_cases zero : size = 0
    · rw [Decimal.round, if_pos (by simp [zero]), ← met, ← whole, zero, Nat.cast_zero]
    · have reach : (Decimal.reach .binary64 : Int) = 2100 := rfl
      have exponent : (Decimal.mk (size * 10) (-1)).exponent = -1 := rfl
      have count := (Decimal.mk (size * 10) (-1)).digitCount_pos
      have nonzero : (Decimal.mk (size * 10) (-1)).coefficient ≠ 0 := by
        dsimp only
        omega
      rw [Decimal.round_near nonzero (by omega) (by omega), value, met]
  have fractional : ¬((pointedNumeral negative size).fraction = none ∧
      (pointedNumeral negative size).exponent = none) := fun absent => nomatch absent.1
  rw [Numeral.read, if_neg fractional, magnitude]
  exact congrArg (fun value => Except.ok (float value)) rounded

/-- Every number that a literal can denote is denoted by some numeral as it is. -/
theorem exists_own_numeral {n : Number} (isLiteral : n.IsLiteral) :
    ∃ numeral : Numeral, numeral.Written ∧ numeral.read = .ok n := by
  have spelled (same : n.normalized = n) : ∃ numeral : Numeral, numeral.Written ∧
      numeral.read = .ok n := by
    obtain ⟨-, numeral, -, written, read⟩ := exists_numeral isLiteral
    exact ⟨numeral, written, same ▸ read⟩
  cases n with
  | int value => exact spelled rfl
  | truth => exact isLiteral.elim
  | float value =>
    cases value with
    | nan | infinity => exact spelled rfl
    | finite negative rank =>
      by_cases integral : (Binary.magnitude .binary64 rank).den = 1
      · exact ⟨_, pointedNumeral_written _ _, pointedNumeral_read negative integral⟩
      · exact spelled (if_neg fun both => integral both.1)

end Number

end PatternDispatch
