/-!
# Double-precision numbers

A `Binary64` is a double of IEEE 754, kept as its 64 bits. Every finite double is a whole multiple
of `2 ^ (-1074)`, so `scaled` gives its exact value as an integer in that unit; comparing two
doubles is comparing two integers, and the infinities sit outside all finite values in the same
order. `ofRatio` is the double nearest to a fraction, the even one on a tie.

* `eq_self`: a double that is a number is equal to itself.
* `isNaN_of_isFinite`: a finite double is a number.
-/

set_option autoImplicit false

namespace Conform

/-- A double-precision number, as its sign bit, eleven exponent bits and 52 fraction bits. -/
structure Binary64 where
  bits : UInt64
deriving DecidableEq

namespace Binary64

/-! ## Fields -/

/-- The sign bit. -/
def isNegative (x : Binary64) : Bool := Nat.pow 2 63 ≤ x.bits.toNat

/-- The exponent bits. -/
def biased (x : Binary64) : Nat := x.bits.toNat / Nat.pow 2 52 % Nat.pow 2 11

/-- The fraction bits. -/
def fraction (x : Binary64) : Nat := x.bits.toNat % Nat.pow 2 52

/-- Neither an infinity nor NaN. -/
def isFinite (x : Binary64) : Bool := x.biased != 2047

/-- Not a number: all exponent bits are set and some fraction bit is. -/
def isNaN (x : Binary64) : Bool := x.biased == 2047 && x.fraction != 0

/-- The significand with its leading bit, which only subnormal numbers lack. -/
def significand (x : Binary64) : Nat :=
  if x.biased = 0 then x.fraction else x.fraction + Nat.pow 2 52

/-- The power of two that the significand is multiplied with, above `2 ^ (-1074)`. -/
def shift (x : Binary64) : Nat := x.biased - 1

/-- The absolute value in units of `2 ^ (-1074)`. -/
def magnitude (x : Binary64) : Nat := x.significand * Nat.pow 2 x.shift

/-- The value in units of `2 ^ (-1074)`. An infinity lies beyond every finite value. -/
def scaled (x : Binary64) : Int := if x.isNegative then -x.magnitude else x.magnitude

/-- One, in the unit of `scaled`. -/
def unit : Nat := Nat.pow 2 1074

/-! ## Order -/

/-- Numerically equal: zeros of both signs are, NaN is equal to nothing. -/
def eq (x y : Binary64) : Bool := !x.isNaN && !y.isNaN && x.scaled == y.scaled

/-- Numerically less; false when either is NaN. -/
def lt (x y : Binary64) : Bool := !x.isNaN && !y.isNaN && decide (x.scaled < y.scaled)

theorem eq_self {x : Binary64} (h : x.isNaN = false) : x.eq x = true := by simp [eq, h]

theorem isNaN_of_isFinite {x : Binary64} (h : x.isFinite = true) : x.isNaN = false := by
  simp only [isFinite, bne_iff_ne, ne_eq] at h
  simp [isNaN, h]

/-! ## Whole numbers -/

/-- The largest integer that is not above the value. -/
def floor (x : Binary64) : Int := x.scaled / unit

/-- The least integer that is not below the value. -/
def ceil (x : Binary64) : Int := -(-x.scaled / unit)

/-- The value has no fractional part. -/
def isWhole (x : Binary64) : Bool := x.magnitude % unit == 0

/-! ## Rounding -/

/-- `num / den` rounded to the nearest natural number, to the even one on a tie. -/
def roundHalfEven (num den : Nat) : Nat :=
  let q := num / den
  let r := num % den
  if 2 * r < den ∨ (2 * r = den ∧ q % 2 = 0) then q else q + 1

/-- Positive infinity. -/
def infinity : Binary64 := ⟨0x7FF0000000000000⟩

/-- The quiet NaN. -/
def nan : Binary64 := ⟨0x7FF8000000000000⟩

/-- Zero. -/
def zero : Binary64 := ⟨0⟩

/-- The same magnitude with the given sign. -/
def withSign (negative : Bool) (x : Binary64) : Binary64 :=
  ⟨UInt64.ofNat (x.bits.toNat % Nat.pow 2 63 + if negative then Nat.pow 2 63 else 0)⟩

/-- The double nearest to `num / den`, for a positive `den`. The significand is the quotient rounded
to 53 bits; a carry out of the significand runs into the exponent bits, which is the next power of
two, and from the exponent 2047 on the value is an infinity. -/
def ofRatio (num den : Nat) : Binary64 :=
  let shift := (num * unit / den).log2 - 52
  let significand := roundHalfEven (num * unit) (den * Nat.pow 2 shift)
  let bits := shift * Nat.pow 2 52 + significand
  if bits < 2047 * Nat.pow 2 52 then ⟨UInt64.ofNat bits⟩ else infinity

/-- The double nearest to a natural number. -/
def ofNat (n : Nat) : Binary64 := ofRatio n 1

/-- The double nearest to an integer. -/
def ofInt (i : Int) : Binary64 := withSign (i < 0) (ofNat i.natAbs)

/-- The double nearest to `coefficient * 10 ^ exponent`. Far outside the range of doubles the power
of ten is not computed. -/
def ofDecimal (negative : Bool) (coefficient : Nat) (exponent : Int) : Binary64 :=
  let places := (Nat.toDigits 10 coefficient).length + exponent
  withSign negative <|
    if coefficient = 0 ∨ places < -330 then zero
    else if 330 < places then infinity
    else if 0 ≤ exponent then ofRatio (coefficient * Nat.pow 10 exponent.toNat) 1
    else ofRatio coefficient (Nat.pow 10 (-exponent).toNat)

end Binary64

end Conform
