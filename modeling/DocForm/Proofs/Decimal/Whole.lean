import DocForm.Decimal.Binary
import Mathlib

/-! The numbers that doubles stand for. Main statements: a double is read as a whole number exactly
when that is its value, and a double that is at least zero stands for no negative number. -/

namespace DocForm.Decimal

namespace Binary

/-- The number that the parts make. -/
def value (binary : Binary) : ℚ :=
  (if binary.negative then -1 else 1) * binary.significand * 2 ^ binary.exponent

variable {binary : Binary} {n : Int}

/-- A power with an exponent of either sign is a quotient of two natural numbers. -/
theorem two_zpow_mul (exponent : Int) :
    (2 : ℚ) ^ exponent * 2 ^ (-exponent).toNat = 2 ^ exponent.toNat := by
  have split : exponent + ((-exponent).toNat : Int) = (exponent.toNat : Int) := by omega
  rw [← zpow_natCast, ← zpow_add₀ (by norm_num), split, zpow_natCast]

/-- The value is a whole number when the significand is so many times the parts that the exponent
cuts it into. -/
theorem value_eq_iff : binary.value = n ↔
    (if binary.negative then -1 else 1) * (binary.significand : Int) * 2 ^ binary.exponent.toNat =
      n * 2 ^ (-binary.exponent).toNat := by
  have positive : (2 : ℚ) ^ (-binary.exponent).toNat ≠ 0 := by positivity
  rw [← mul_left_inj' positive, value, mul_assoc, two_zpow_mul, ← Rat.intCast_inj]
  push_cast
  rfl

theorem integer?_eq_some_iff : binary.integer? = some n ↔ binary.value = n := by
  rw [value_eq_iff]
  obtain ⟨negative, significand, exponent⟩ := binary
  simp only [integer?, Nat.pow_eq]
  have positive : (2 : Int) ^ (-exponent).toNat ≠ 0 := by positivity
  split
  · rename_i even
    have whole : (significand : Int) / 2 ^ (-exponent).toNat * 2 ^ (-exponent).toNat =
        significand := by
      exact_mod_cast Nat.div_mul_cancel (Nat.dvd_of_mod_eq_zero even)
    rw [Option.some_inj, ← mul_left_inj' positive]
    push_cast
    have magnitude : (significand : Int) / 2 ^ (-exponent).toNat * 2 ^ exponent.toNat *
        2 ^ (-exponent).toNat = significand * 2 ^ exponent.toNat := by
      rw [mul_right_comm, whole]
    cases negative with
    | false => simp only [Bool.false_eq_true, if_false, one_mul, magnitude]
    | true => simp only [if_true, neg_mul, one_mul, magnitude]
  · rename_i odd
    simp only [reduceCtorEq, false_iff]
    intro same
    apply odd
    -- Of the two powers at least one is one; here the divisor is not.
    have alone : exponent.toNat = 0 := by
      by_contra above
      have none : (-exponent).toNat = 0 := by omega
      simp [none, Nat.mod_one] at odd
    have divides : (2 : Int) ^ (-exponent).toNat ∣ significand := by
      rw [alone, pow_zero, mul_one] at same
      refine ⟨if negative then -n else n, ?_⟩
      cases negative <;> simp at same ⊢ <;> linarith
    exact Nat.mod_eq_zero_of_dvd (by exact_mod_cast divides)

end Binary

/-- The double is finite, and the number is its value. -/
def StandsFor (x : Float) (number : ℚ) : Prop :=
  ∃ binary, Binary.ofFloat? x = some binary ∧ binary.value = number

variable {x : Float}

theorem whole?_eq_some_iff {n : Int} : whole? x = some n ↔ StandsFor x n := by
  simp only [whole?, Option.bind_eq_some_iff, Binary.integer?_eq_some_iff, StandsFor]

section Sign

open Float.Model UnpackedFloat

variable {bits : BitVec 64}

theorem toNat_unpackMantissa :
    (@unpackMantissa Format.binary64 bits).toNat = bits.toNat % 2 ^ 52 := by
  rw [unpackMantissa_def, BitVec.extractLsb'_toNat, Nat.shiftRight_zero]

theorem toNat_unpackExponent :
    (@unpackExponent Format.binary64 bits).toNat = bits.toNat / 2 ^ 52 % 2 ^ 11 := by
  rw [unpackExponent_def, BitVec.extractLsb'_toNat, Nat.shiftRight_eq_div_pow]

theorem ofBitVec_unpackSign (high : 2 ^ 63 ≤ bits.toNat) :
    Sign.ofBitVec (@unpackSign Format.binary64 bits) = .negative := by
  apply if_neg
  intro clear
  have bit := congrArg BitVec.toNat clear
  rw [unpackSign_def, BitVec.extractLsb'_toNat, Nat.shiftRight_eq_div_pow] at bit
  change bits.toNat / 2 ^ 63 % 2 ^ 1 = 0 at bit
  omega

/-- With its first bit set a finite double is a zero or negative. -/
theorem unpack_of_high (high : 2 ^ 63 ≤ bits.toNat)
    (finite : bits.toNat / 2 ^ 52 % 2 ^ 11 ≠ 2047)
    (some : bits.toNat / 2 ^ 52 % 2 ^ 11 ≠ 0 ∨ bits.toNat % 2 ^ 52 ≠ 0) :
    ∃ mantissa exponent positive, UnpackedFloat.unpack Format.binary64 bits =
      .finite .negative mantissa exponent positive := by
  have notAll : @unpackExponent Format.binary64 bits ≠ -1#_ := by
    intro all
    have ones := congrArg BitVec.toNat all
    rw [toNat_unpackExponent] at ones
    exact finite ones
  simp only [UnpackedFloat.unpack, if_neg notAll, ofBitVec_unpackSign high]
  split
  · rename_i none
    have zero : @unpackMantissa Format.binary64 bits ≠ 0#_ := by
      intro nothing
      have left := congrArg BitVec.toNat none
      have right := congrArg BitVec.toNat nothing
      rw [toNat_unpackExponent] at left
      rw [toNat_unpackMantissa] at right
      exact some.elim (· left) (· right)
    rw [dif_neg zero]
    exact ⟨_, _, Nat.pos_of_ne_zero fun nothing => zero (BitVec.eq_of_toNat_eq nothing), rfl⟩
  · have positive : 0 < (1#1 ++ @unpackMantissa Format.binary64 bits).toNat := by
      rw [BitVec.toNat_append]
      exact Nat.lt_of_lt_of_le (by decide) Nat.left_le_or
    exact ⟨_, _, positive, rfl⟩

end Sign

/-- A double below zero is not at least zero. -/
theorem not_nonneg_of_unpack {mantissa : Nat} {exponent : Int} {positive : 0 < mantissa}
    (unpacked : x.toModel.unpack = .finite .negative mantissa exponent positive) : ¬ 0 ≤ x := by
  intro nonneg
  have least : (0 : Float).toModel.unpack.le x.toModel.unpack = true := of_decide_eq_true nonneg
  have zero : (0 : Float).toModel.unpack = .zero .positive := rfl
  rw [zero, unpacked] at least
  cases least

theorem significand_eq_zero {binary : Binary} (nonneg : 0 ≤ x)
    (parts : Binary.ofFloat? x = some binary) (negative : binary.negative = true) :
    binary.significand = 0 := by
  have bits : x.toBits.toNat = x.toModel.toBits.toBitVec.toNat := rfl
  simp only [Binary.ofFloat?, leastNormal, bits, Nat.pow_eq] at parts
  by_contra some
  split at parts
  · cases parts
  · rename_i finite
    have high : 2 ^ 63 ≤ x.toModel.toBits.toBitVec.toNat := by
      split at parts <;> cases parts <;> simpa using negative
    obtain ⟨_, _, _, unpacked⟩ := unpack_of_high high finite (by
      split at parts
      · cases parts
        exact .inr some
      · rename_i normal
        exact .inl normal)
    exact not_nonneg_of_unpack unpacked nonneg

theorem nonneg_of_standsFor {number : ℚ} (nonneg : 0 ≤ x) (stands : StandsFor x number) :
    0 ≤ number := by
  obtain ⟨binary, parts, rfl⟩ := stands
  cases negative : binary.negative with
  | false =>
    simp only [Binary.value, negative, Bool.false_eq_true, if_false]
    positivity
  | true => simp [Binary.value, significand_eq_zero nonneg parts negative]

end DocForm.Decimal
