import DiagnosticRelay.Validation.Scalar
import Mathlib.Algebra.Order.Field.Power
import Mathlib.Algebra.Order.Field.Rat
import Mathlib.Tactic.Linarith
import Mathlib.Tactic.Positivity

/-!
# Where NaN comes from, and what it passes

NaN is neither below zero nor at least zero.  So a number that is not below zero is at least
zero only if it is not NaN (`isBelowZero_eq_false_iff`), and whoever asks the one instead of the
other has to know where NaN comes from.

No arithmetic of this library makes it: a rounded quotient is finite or infinite.  What is read as
NaN spells it, with a sign or without (`read?_eq_some_nan_iff`), and a loosely typed value that
counts as a number counts as NaN if it is NaN or such a text (`isNan_iff_of_number`).
-/

namespace DiagnosticRelay

namespace Binary64

/-- A number that is at least zero, by the value that it stands for. -/
def IsAtLeastZero : Binary64 → Prop
  | .nan => False
  | .infinite negative => negative = false
  | .finite negative mantissa exponent =>
    0 ≤ (if negative then -1 else 1 : ℚ) * (mantissa * 2 ^ exponent)

/-- What is not below zero is at least zero, NaN apart. -/
theorem isBelowZero_eq_false_iff {x : Binary64} :
    x.isBelowZero = false ↔ x = .nan ∨ x.IsAtLeastZero := by
  cases x with
  | nan => exact iff_of_true rfl (Or.inl rfl)
  | infinite negative => simp [isBelowZero, IsAtLeastZero]
  | finite negative mantissa exponent =>
    have hpower : (0 : ℚ) < 2 ^ exponent := by positivity
    cases negative with
    | false =>
      refine iff_of_true rfl (Or.inr ?_)
      show (0 : ℚ) ≤ 1 * (mantissa * 2 ^ exponent)
      positivity
    | true =>
      rcases Nat.eq_zero_or_pos mantissa with rfl | hmantissa
      · refine iff_of_true rfl (Or.inr ?_)
        show (0 : ℚ) ≤ -1 * ((0 : Nat) * 2 ^ exponent)
        simp
      · refine iff_of_false (by simp [isBelowZero, hmantissa.ne']) ?_
        rintro (h | h)
        · cases h
        · have hmagnitude : (0 : ℚ) < mantissa * 2 ^ exponent := by positivity
          have hproduct : (0 : ℚ) ≤ -1 * (mantissa * 2 ^ exponent) := h
          linarith

/-! ## Rounding and reading -/

theorem ofRatio_ne_nan (negative : Bool) (num den : Nat) : ofRatio negative num den ≠ .nan := by
  rw [ofRatio]
  split
  · exact Binary64.noConfusion
  · simp only
    split
    · split <;> exact Binary64.noConfusion
    · split <;> exact Binary64.noConfusion

theorem ofScientific_ne_nan (negative : Bool) (digits : Nat) (exponent : Int) :
    ofScientific negative digits exponent ≠ .nan := by
  rw [ofScientific]
  split
  · exact Binary64.noConfusion
  · split
    · exact Binary64.noConfusion
    · split
      · exact Binary64.noConfusion
      · split <;> exact ofRatio_ne_nan _ _ _

theorem ofInt_ne_nan (z : Int) : ofInt z ≠ .nan := ofRatio_ne_nan _ _ _

end Binary64

/-- A text that spells NaN, perhaps with a sign, in letters of either case. -/
def Text.SpellsNan (t : Text) : Prop := Text.lower (Decimal.takeSign t).2 = text "nan"

namespace Binary64

/-- What is read as NaN spells it. -/
theorem read?_eq_some_nan_iff {t : Text} : read? t = some .nan ↔ t.SpellsNan := by
  rw [read?, Text.SpellsNan]
  generalize Decimal.takeSign t = parts
  obtain ⟨negative, rest⟩ := parts
  simp only [unsigned?]
  by_cases hinfinite : Text.lower rest = text "inf" ∨ Text.lower rest = text "infinity"
  · rw [if_pos hinfinite]
    refine iff_of_false (by simp) ?_
    rcases hinfinite with h | h <;> rw [h] <;> decide
  · rw [if_neg hinfinite]
    by_cases hnan : Text.lower rest = text "nan"
    · rw [if_pos hnan]
      exact iff_of_true rfl hnan
    · rw [if_neg hnan]
      refine iff_of_false (fun h => ?_) hnan
      split at h
      all_goals
        split at h
        · cases h
        · obtain ⟨exponent, -, hread⟩ := Option.map_eq_some_iff.mp h
          exact ofScientific_ne_nan _ _ _ hread

end Binary64

/-- A value that counts as NaN: NaN itself, or a text that spells it without the white space around
it or, if that is no number, without its underscores. -/
def Value.IsNan : Value → Prop
  | .float x => x = .nan
  | .str s =>
    let trimmed := Text.trimBy CodePoint.isWhiteSpace s
    trimmed.SpellsNan ∨
      Binary64.read? trimmed = none ∧ ∃ t ∈ Binary64.dropUnderscores? s, t.SpellsNan
  | _ => False

theorem Binary64.readSetting?_eq_some_nan_iff {s : Text} :
    readSetting? s = some .nan ↔ (Value.str s).IsNan := by
  rw [readSetting?, Value.IsNan, ← read?_eq_some_nan_iff]
  cases hread : read? (Text.trimBy CodePoint.isWhiteSpace s) with
  | some x => simp
  | none =>
    simp only [reduceCtorEq, false_or, true_and, Option.bind_eq_some_iff, read?_eq_some_nan_iff]
    exact Iff.rfl

/-- A value that counts as a number counts as NaN exactly if the number is NaN. -/
theorem Validated.isNan_iff_of_number {value : Value} {x : Binary64}
    (h : Validated.number value = .valid x) : value.IsNan ↔ x = .nan := by
  cases value with
  | float y =>
    cases h
    exact Iff.rfl
  | int z =>
    rw [number] at h
    split at h
    · cases h
      exact iff_of_false id (Binary64.ofInt_ne_nan z)
    · cases h
  | bool b =>
    cases h
    exact iff_of_false id (Binary64.ofInt_ne_nan _)
  | str s =>
    rw [number, wellFormed] at h
    split at h
    · split at h
      · next y hread =>
        cases h
        rw [← Binary64.readSetting?_eq_some_nan_iff, hread, Option.some_inj]
      · cases h
    · cases h
  | null | list | object | date => cases h

end DiagnosticRelay
