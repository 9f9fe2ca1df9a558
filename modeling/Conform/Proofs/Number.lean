import Conform.Json.Basic

/-!
# Doubles nearest to other numbers

The double nearest to a fraction is finite or positive infinity, so the double nearest to an integer
is always a number. A sign changes neither the exponent nor the fraction.

* `isNaN_ofInt`: the double nearest to an integer is not NaN.
* `isFinite_ofInt`: that of an integer of 64 bits is finite.
* `Number.Proper`: the numbers that there are in JSON; their doubles are finite.
-/

set_option autoImplicit false

namespace Conform

namespace Binary64

/-! ## Signs -/

theorem biased_withSign (negative : Bool) (x : Binary64) :
    (withSign negative x).biased = x.biased := by
  have hx := x.bits.toNat_lt
  have h63 : Nat.pow 2 63 = 9223372036854775808 := rfl
  have h52 : Nat.pow 2 52 = 4503599627370496 := rfl
  have h11 : Nat.pow 2 11 = 2048 := rfl
  simp only [biased, withSign, UInt64.toNat_ofNat', h63, h52, h11]
  cases negative <;> simp only [Bool.false_eq_true, if_true, if_false] <;> omega

theorem fraction_withSign (negative : Bool) (x : Binary64) :
    (withSign negative x).fraction = x.fraction := by
  have hx := x.bits.toNat_lt
  have h63 : Nat.pow 2 63 = 9223372036854775808 := rfl
  have h52 : Nat.pow 2 52 = 4503599627370496 := rfl
  simp only [fraction, withSign, UInt64.toNat_ofNat', h63, h52]
  cases negative <;> simp only [Bool.false_eq_true, if_true, if_false] <;> omega

theorem isFinite_withSign (negative : Bool) (x : Binary64) :
    (withSign negative x).isFinite = x.isFinite := by
  rw [isFinite, isFinite, biased_withSign]

theorem isNaN_withSign (negative : Bool) (x : Binary64) :
    (withSign negative x).isNaN = x.isNaN := by
  rw [isNaN, isNaN, biased_withSign, fraction_withSign]

/-! ## Rounding -/

/-- Bits below those of infinity are those of a finite double. -/
theorem isFinite_of_lt {bits : Nat} (h : bits < 2047 * Nat.pow 2 52) :
    (⟨UInt64.ofNat bits⟩ : Binary64).isFinite = true := by
  have h52 : Nat.pow 2 52 = 4503599627370496 := rfl
  have h11 : Nat.pow 2 11 = 2048 := rfl
  simp only [isFinite, biased, UInt64.toNat_ofNat', bne_iff_ne, ne_eq, h52, h11] at h ⊢
  omega

theorem isNaN_ofRatio (num den : Nat) : (ofRatio num den).isNaN = false := by
  simp only [ofRatio]
  split
  · exact isNaN_of_isFinite (isFinite_of_lt ‹_›)
  · rfl

theorem isNaN_ofInt (i : Int) : (ofInt i).isNaN = false := by
  rw [ofInt, isNaN_withSign, ofNat, isNaN_ofRatio]

theorem roundHalfEven_le (num den : Nat) : roundHalfEven num den ≤ num / den + 1 := by
  simp only [roundHalfEven]
  split
  · exact Nat.le_succ _
  · exact Nat.le_refl _

/-- A significand has 53 bits at most, and one more if it is rounded up. -/
theorem roundHalfEven_shift_le (n : Nat) :
    roundHalfEven n (Nat.pow 2 (n.log2 - 52)) ≤ Nat.pow 2 53 := by
  have hlt : n < Nat.pow 2 (n.log2 - 52) * Nat.pow 2 53 := by
    have hpow : Nat.pow 2 (n.log2 + 1) ≤ Nat.pow 2 (n.log2 - 52 + 53) :=
      Nat.pow_le_pow_right (by decide) (by omega)
    calc n < Nat.pow 2 (n.log2 + 1) := Nat.lt_log2_self
      _ ≤ Nat.pow 2 (n.log2 - 52 + 53) := hpow
      _ = Nat.pow 2 (n.log2 - 52) * Nat.pow 2 53 := Nat.pow_add ..
  have hdiv : n / Nat.pow 2 (n.log2 - 52) < Nat.pow 2 53 := Nat.div_lt_of_lt_mul hlt
  have hround := roundHalfEven_le n (Nat.pow 2 (n.log2 - 52))
  omega

theorem log2_mul_pow_le {n a : Nat} (h : n < Nat.pow 2 a) (b : Nat) :
    (n * Nat.pow 2 b).log2 ≤ a + b := by
  have hpos : 0 < Nat.pow 2 b := Nat.pow_pos (by decide)
  by_cases hzero : n * Nat.pow 2 b = 0
  · rw [hzero]
    exact Nat.zero_le _
  · refine Nat.le_of_lt ((Nat.log2_lt hzero).2 ?_)
    calc n * Nat.pow 2 b < Nat.pow 2 a * Nat.pow 2 b := Nat.mul_lt_mul_of_pos_right h hpos
      _ = Nat.pow 2 (a + b) := (Nat.pow_add 2 a b).symm

theorem isFinite_ofNat {n : Nat} (h : n < Nat.pow 2 64) : (ofNat n).isFinite = true := by
  have hsignificand := roundHalfEven_shift_le (n * unit)
  -- the exponent has a name, since no one should compute the power
  obtain ⟨b, hunit, hb⟩ : ∃ b, unit = Nat.pow 2 b ∧ b = 1074 := by
    refine ⟨1074, ?_, rfl⟩
    unfold unit
    rfl
  have hlog : (n * unit).log2 ≤ 64 + b := by
    rw [hunit]
    exact log2_mul_pow_le h b
  have hbits : ((n * unit).log2 - 52) * Nat.pow 2 52 +
      roundHalfEven (n * unit) (Nat.pow 2 ((n * unit).log2 - 52)) < 2047 * Nat.pow 2 52 := by
    have h52 : Nat.pow 2 52 = 4503599627370496 := rfl
    have h53 : Nat.pow 2 53 = 9007199254740992 := rfl
    rw [h53] at hsignificand
    rw [h52]
    omega
  simp only [ofNat, ofRatio, Nat.div_one, Nat.one_mul]
  rw [if_pos hbits]
  exact isFinite_of_lt hbits

theorem isFinite_ofInt {i : Int} (h : i.natAbs < Nat.pow 2 64) : (ofInt i).isFinite = true := by
  rw [ofInt, isFinite_withSign, isFinite_ofNat h]

end Binary64

namespace Number

/-- The numbers that there are in JSON: integers of 64 bits, with or without a sign, and finite
doubles. -/
def Proper : Number → Prop
  | int i => -(Nat.pow 2 63 : Int) ≤ i ∧ i < Nat.pow 2 64
  | real x => x.isFinite = true

theorem Proper.isFinite {n : Number} (h : n.Proper) : n.toBinary64.isFinite = true := by
  cases n with
  | int i =>
    have h63 : Nat.pow 2 63 = 9223372036854775808 := rfl
    have h64 : Nat.pow 2 64 = 18446744073709551616 := rfl
    refine Binary64.isFinite_ofInt ?_
    simp only [Proper, h63, h64] at h ⊢
    omega
  | real x => exact h

end Number

end Conform
