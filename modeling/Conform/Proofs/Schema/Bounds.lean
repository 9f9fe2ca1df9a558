import Conform.Proofs.Schema.Rereading
import Mathlib.Data.Rat.Floor

/-!
# Bounds that are no counts

A finite double has an exact rational value, and a number of JSON is read as that of the nearest
double. A length or item bound that is no count is repaired by rounding this value inwards, which
changes none of the lengths that it admits: the count in its place is the value rounded, or the
largest count if that is too large.

* `Binary64.floor_eq`, `Binary64.ceil_eq`: rounding a double is rounding its value.
* `coerceBound_lower`, `coerceBound_upper`: the count in place of a bound.
* `coerceBound_inwards`: it admits the same lengths.
-/

set_option autoImplicit false

namespace Conform

/-! ## Values -/

namespace Binary64

/-- The exact value of a finite double. -/
def value (x : Binary64) : ℚ := x.scaled / unit

theorem floor_eq (x : Binary64) : x.floor = ⌊x.value⌋ :=
  (Rat.floor_intCast_div_natCast x.scaled unit).symm

theorem ceil_eq (x : Binary64) : x.ceil = ⌈x.value⌉ :=
  (Rat.ceil_intCast_div_natCast x.scaled unit).symm

end Binary64

/-- The exact value of the double nearest to a number. -/
def Number.value (n : Number) : ℚ := n.toBinary64.value

namespace Schema

/-! ## The count in place of a bound -/

variable {n : Number}

/-- A lower bound is rounded up; a negative one becomes zero. -/
theorem coerceBound_lower (h : n.Proper) :
    coerceBound true (.num n) = some (min ⌈n.value⌉.toNat maxCount) := by
  simp only [coerceBound, h.isFinite, Bool.not_true, Bool.false_eq_true, if_false, if_true,
    Binary64.ceil_eq, Number.value]
  split
  · rfl
  · rw [Int.toNat_of_nonpos (by omega), Nat.zero_min]

/-- An upper bound is rounded down, unless it is negative. -/
theorem coerceBound_upper (h : n.Proper) :
    coerceBound false (.num n) =
      if 0 ≤ n.value then some (min ⌊n.value⌋.toNat maxCount) else none := by
  simp only [coerceBound, h.isFinite, Bool.not_true, Bool.false_eq_true, if_false,
    Binary64.floor_eq, Number.value]
  exact if_congr Int.floor_nonneg rfl rfl

/-- What is no number has no count in its place. -/
theorem coerceBound_of_ne_num {v : Json} (h : ∀ n, v ≠ .num n) (lower : Bool) :
    coerceBound lower v = none := by
  cases v with
  | num n => exact absurd rfl (h n)
  | _ => rfl

/-! ## The lengths that it admits -/

/-- The largest count, in the place of a larger value, still admits no length below it. -/
theorem toNat_ceil_min_le_iff {x : ℚ} {k : ℕ} (hk : k < maxCount) :
    min ⌈x⌉.toNat maxCount ≤ k ↔ x ≤ k := by
  have hceil : ⌈x⌉ ≤ (k : ℤ) ↔ x ≤ k := by
    rw [Int.ceil_le, Int.cast_natCast]
  rw [← hceil]
  omega

/-- The largest count, in the place of a larger value, still admits all lengths. -/
theorem le_toNat_floor_min_iff {x : ℚ} (hx : 0 ≤ x) {k : ℕ} (hk : k ≤ maxCount) :
    k ≤ min ⌊x⌋.toNat maxCount ↔ k ≤ x := by
  have hfloor : (k : ℤ) ≤ ⌊x⌋ ↔ k ≤ x := by
    rw [Int.le_floor, Int.cast_natCast]
  have hpos : 0 ≤ ⌊x⌋ := Int.floor_nonneg.2 hx
  rw [← hfloor]
  omega

/-- **Bounds are rounded inwards.** Of a number, a lower bound becomes a count that admits the same
lengths, and so does an upper bound unless it is negative: then it is dropped, as is a bound that is
no number. The count is the value rounded and brought into the range of counts, which no value
leaves by wrapping around. -/
theorem coerceBound_inwards {v : Json} (hv : v.Proper) :
    (∀ n, v = .num n →
      (∀ keyword ∈ ["minLength", "minItems"], ∃ u : ℕ,
        coerceBound (isLowerBound keyword) v = some u ∧
        (∀ k < Nat.pow 2 63, u ≤ k ↔ n.value ≤ k) ∧
        (u : ℤ) = max 0 (min ⌈n.value⌉ maxCount)) ∧
      ∀ keyword ∈ ["maxLength", "maxItems"],
        (0 ≤ n.value → ∃ u : ℕ, coerceBound (isLowerBound keyword) v = some u ∧
          (∀ k < Nat.pow 2 63, k ≤ u ↔ k ≤ n.value) ∧
          (u : ℤ) = max 0 (min ⌊n.value⌋ maxCount)) ∧
        (n.value < 0 → coerceBound (isLowerBound keyword) v = none)) ∧
    ((∀ n, v ≠ .num n) → ∀ keyword ∈ boundKeywords,
      coerceBound (isLowerBound keyword) v = none) := by
  have hmax : Nat.pow 2 63 < maxCount := by decide
  refine ⟨?_, fun hne keyword _ => coerceBound_of_ne_num hne _⟩
  rintro n rfl
  have hn : n.Proper := Json.proper_num_iff.1 hv
  refine ⟨fun keyword hk => ?_, fun keyword hk => ?_⟩
  · have hlower : isLowerBound keyword = true := by
      revert keyword
      decide
    rw [hlower, coerceBound_lower hn]
    refine ⟨_, rfl, fun k hk => toNat_ceil_min_le_iff (by omega), by omega⟩
  · have hupper : isLowerBound keyword = false := by
      revert keyword
      decide
    rw [hupper, coerceBound_upper hn]
    refine ⟨fun hx => ?_, fun hx => if_neg (not_le.2 hx)⟩
    rw [if_pos hx]
    have hpos : 0 ≤ ⌊n.value⌋ := Int.floor_nonneg.2 hx
    exact ⟨_, rfl, fun k hk => le_toNat_floor_min_iff hx (by omega), by omega⟩

/-- The double `2.5`. -/
def twoAndHalf : Binary64 := ⟨0x4004000000000000⟩

theorem coerceBound_inwards_twoAndHalf :
    (Json.num (.real twoAndHalf)).Proper ∧ 0 ≤ twoAndHalf.value ∧
    coerceBound true (.num (.real twoAndHalf)) = some 3 ∧
    (∀ k < Nat.pow 2 63, 3 ≤ k ↔ twoAndHalf.value ≤ k) ∧
    coerceBound false (.num (.real twoAndHalf)) = some 2 ∧
    (∀ k < Nat.pow 2 63, k ≤ 2 ↔ k ≤ twoAndHalf.value) := by
  have hv : (Json.num (.real twoAndHalf)).Proper := by
    simp only [Json.proper_num_iff, Number.Proper]
    decide
  have hx : 0 ≤ twoAndHalf.value :=
    div_nonneg (Int.cast_nonneg (by decide +kernel)) (Nat.cast_nonneg _)
  have hlower : coerceBound true (.num (.real twoAndHalf)) = some 3 := by decide +kernel
  have hupper : coerceBound false (.num (.real twoAndHalf)) = some 2 := by decide +kernel
  obtain ⟨hmin, hmax⟩ := (coerceBound_inwards hv).1 _ rfl
  obtain ⟨u, hu, hle, -⟩ := hmin "minLength" (by decide)
  obtain ⟨w, hw, hge, -⟩ := (hmax "maxItems" (by decide)).1 hx
  cases hlower.symm.trans hu
  cases hupper.symm.trans hw
  exact ⟨hv, hx, hlower, hle, hupper, hge⟩

end Schema

end Conform
