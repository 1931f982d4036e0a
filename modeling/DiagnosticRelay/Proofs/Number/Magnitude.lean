import DiagnosticRelay.Number.Binary64
import DiagnosticRelay.Proofs.Number.Decimal
import Mathlib.Algebra.Group.Int.Defs

/-!
# How large an integer can get

Integers come from digits, and from floating-point numbers that are cut off after the point.  The
former are bounded because no more than `Decimal.digitLimit` digits are converted, the latter
because the format is: a number that is rounded into it has a mantissa of 53 bits and an exponent of
at most 971, or is infinite.  Both stay below one bound, `IsShort`, which is just what can be
written and converted again.

The bound on the mantissa is not the sharp one.  It is enough to know that the exponent is
chosen so that the scaled quotient has at most one bit too many.
-/

namespace DiagnosticRelay

/-- An integer with no more digits than are converted. -/
def IsShort (z : Int) : Prop := z.natAbs < 10 ^ Decimal.digitLimit

theorem isShort_of_le {z : Int} {k : Nat} (hk : k < Decimal.digitLimit) (h : z.natAbs ≤ 2 ^ k) :
    IsShort z :=
  calc z.natAbs ≤ 2 ^ k := h
    _ ≤ 10 ^ k := Nat.pow_le_pow_left (by decide) k
    _ < 10 ^ Decimal.digitLimit := Nat.pow_lt_pow_right (by decide) hk

theorem isShort_one : IsShort 1 :=
  isShort_of_le (show 0 < Decimal.digitLimit by decide) (by decide)

/-- The first integer that is too long. -/
theorem not_isShort_limit : ¬IsShort (10 ^ Decimal.digitLimit) := by
  have hten : (10 : Int).natAbs = 10 := rfl
  rw [IsShort, Int.natAbs_pow, hten]
  exact Nat.lt_irrefl _

theorem isShort_signed {n : Nat} (h : n < 10 ^ Decimal.digitLimit) (negative : Bool) :
    IsShort (Decimal.signed negative n) := by
  rw [IsShort]
  cases negative with
  | false => rwa [Decimal.signed_false, Int.natAbs_natCast]
  | true => rwa [Decimal.signed_true, Int.natAbs_neg, Int.natAbs_natCast]

/-- What is converted from digits is below the bound. -/
theorem lt_of_readDigits {digits : List Nat} (hdigits : ∀ d ∈ digits, d < 10) {n : Nat}
    (h : Decimal.readDigits digits = .ok n) : n < 10 ^ Decimal.digitLimit := by
  rw [Decimal.readDigits] at h
  split at h
  · next hlength =>
    cases h
    exact Nat.lt_of_lt_of_le (Decimal.valueOf_lt hdigits)
      (Nat.pow_le_pow_right (by decide) hlength)
  · cases h

theorem lt_of_readDigits_eq_error {digits : List Nat} {n : Nat}
    (h : Decimal.readDigits digits = .error n) : Decimal.digitLimit < n := by
  rw [Decimal.readDigits] at h
  split at h
  · cases h
  · next hlength =>
    cases h
    omega

namespace Binary64

theorem roundHalfEven_le (num den : Nat) : roundHalfEven num den ≤ num / den + 1 := by
  unfold roundHalfEven
  simp only
  split
  · omega
  · split
    · omega
    · split <;> omega

/-- A quotient that is scaled by its size has few bits before the point. -/
theorem scaleDown_div_lt {num den : Nat} {exponent : Int} (hden : 0 < den)
    (h : (Nat.log2 num : Int) - Nat.log2 den - 53 ≤ exponent) :
    (scaleDown num den exponent).1 / (scaleDown num den exponent).2 < 2 ^ 54 := by
  have hnum : num < 2 ^ (Nat.log2 num + 1) := Nat.lt_log2_self
  have hlog : 2 ^ Nat.log2 den ≤ den := Nat.log2_self_le (by omega)
  rw [scaleDown]
  split
  · next hexponent =>
    have hpos : 0 < den * 2 ^ exponent.toNat := Nat.mul_pos hden (Nat.two_pow_pos _)
    show num / (den * 2 ^ exponent.toNat) < 2 ^ 54
    rw [Nat.div_lt_iff_lt_mul hpos]
    calc num < 2 ^ (Nat.log2 num + 1) := hnum
      _ ≤ 2 ^ (54 + (Nat.log2 den + exponent.toNat)) := Nat.pow_le_pow_right (by decide) (by omega)
      _ = 2 ^ 54 * (2 ^ Nat.log2 den * 2 ^ exponent.toNat) := by rw [Nat.pow_add, Nat.pow_add]
      _ ≤ 2 ^ 54 * (den * 2 ^ exponent.toNat) :=
        Nat.mul_le_mul_left _ (Nat.mul_le_mul_right _ hlog)
  · next hexponent =>
    show num * 2 ^ (-exponent).toNat / den < 2 ^ 54
    rw [Nat.div_lt_iff_lt_mul hden]
    calc num * 2 ^ (-exponent).toNat
        < 2 ^ (Nat.log2 num + 1) * 2 ^ (-exponent).toNat :=
          Nat.mul_lt_mul_of_pos_right hnum (Nat.two_pow_pos _)
      _ = 2 ^ (Nat.log2 num + 1 + (-exponent).toNat) := (Nat.pow_add ..).symm
      _ ≤ 2 ^ (54 + Nat.log2 den) := Nat.pow_le_pow_right (by decide) (by omega)
      _ = 2 ^ 54 * 2 ^ Nat.log2 den := Nat.pow_add ..
      _ ≤ 2 ^ 54 * den := Nat.mul_le_mul_left _ hlog

theorem le_exponentFor (num den : Nat) :
    (Nat.log2 num : Int) - Nat.log2 den - 53 ≤ exponentFor num den := by
  rw [exponentFor]
  split <;> omega

/-- A number whose integer part, if it has one, is short. -/
def IsModerate (x : Binary64) : Prop := ∀ z, x.truncate? = some z → IsShort z

theorem isModerate_nan : IsModerate .nan := by
  rintro z ⟨⟩

theorem isModerate_infinite (negative : Bool) : IsModerate (.infinite negative) := by
  rintro z ⟨⟩

theorem natAbs_truncate? {negative : Bool} {mantissa : Nat} {exponent z : Int}
    (h : (finite negative mantissa exponent).truncate? = some z) :
    z.natAbs = (magnitude mantissa exponent).1 / (magnitude mantissa exponent).2 := by
  rw [truncate?, Option.some.injEq] at h
  subst h
  split
  · exact (Int.natAbs_neg _).trans (Int.natAbs_natCast _)
  · exact Int.natAbs_natCast _

theorem mul_two_pow_le {m k a b : Nat} (hm : m ≤ 2 ^ a) (hk : k ≤ b) :
    m * 2 ^ k ≤ 2 ^ (a + b) := by
  rw [Nat.pow_add]
  exact Nat.mul_le_mul hm (Nat.pow_le_pow_right (by decide) hk)

theorem div_le_two_pow {m a : Nat} (hm : m ≤ 2 ^ a) (k b : Nat) : m / k ≤ 2 ^ (a + b) :=
  calc m / k ≤ m := Nat.div_le_self m k
    _ ≤ 2 ^ a := hm
    _ ≤ 2 ^ (a + b) := Nat.pow_le_pow_right (by decide) (Nat.le_add_right a b)

theorem isModerate_finite (negative : Bool) {mantissa : Nat} {exponent : Int}
    (hmantissa : mantissa ≤ 2 ^ 54) (hexponent : exponent ≤ 971) :
    IsModerate (.finite negative mantissa exponent) := by
  intro z hz
  refine isShort_of_le (show 54 + 971 < Decimal.digitLimit by decide) ?_
  rw [natAbs_truncate? hz, magnitude]
  split
  · have hwhole : exponent.toNat ≤ 971 := by omega
    exact Nat.le_trans (Nat.div_le_self _ 1) (mul_two_pow_le (a := 54) (b := 971) hmantissa hwhole)
  · exact div_le_two_pow hmantissa _ 971

theorem isModerate_zero (negative : Bool) : IsModerate (zero negative) :=
  isModerate_finite negative (by decide) (by decide)

theorem isModerate_ofRatio (negative : Bool) (num : Nat) {den : Nat} (hden : 0 < den) :
    IsModerate (ofRatio negative num den) := by
  have hscaled := scaleDown_div_lt hden (le_exponentFor num den)
  have hrounded := roundHalfEven_le (scaleDown num den (exponentFor num den)).1
    (scaleDown num den (exponentFor num den)).2
  unfold ofRatio
  split
  · exact isModerate_zero negative
  · simp only
    split
    · split
      · exact isModerate_infinite negative
      · exact isModerate_finite negative (show 2 ^ 52 ≤ 2 ^ 54 by decide) (by omega)
    · split
      · exact isModerate_infinite negative
      · exact isModerate_finite negative (by omega) (by omega)

theorem isModerate_ofScientific (negative : Bool) (digits : Nat) (exponent : Int) :
    IsModerate (ofScientific negative digits exponent) := by
  unfold ofScientific
  split
  · exact isModerate_zero negative
  · split
    · exact isModerate_infinite negative
    · split
      · exact isModerate_zero negative
      · split
        · exact isModerate_ofRatio negative _ (by decide)
        · exact isModerate_ofRatio negative _ (Nat.pow_pos (by decide))

end Binary64

end DiagnosticRelay
