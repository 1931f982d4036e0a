import DiagnosticRelay.Number.Decimal
import DiagnosticRelay.Text.Blank
import Mathlib.Data.List.TakeWhile

/-!
# Runs of decimal digits

A run of digits is bounded by whatever is not a digit, and in particular by blanks, signs and
colons: no code point is a decimal digit and one of these.  So the digits at the head of a text
can be told apart from what is before and after them, whatever scripts they come from.

* `IsDigit` is what the table of zeros says of a digit and its value, and `decimalValue?_eq_some_iff`
  that the value is looked up as the table says: no two scripts share a digit.
* `isBlank_of_isDecimal` is read off the table, too: the ten digits of a script never meet a blank
  code point.
* `length_leadingDigits` says that the values read from the head of a text are as many as its
  leading digits, and `lt_length_leadingDigits_iff` that there are more than a given number of them
  exactly if the text begins with that many digits and one more.
-/

namespace DiagnosticRelay

namespace CodePoint

/-- A decimal digit of a value: so many places behind the zero of some script. -/
def IsDigit (c : CodePoint) (d : Nat) : Prop := d < 10 ∧ ∃ first ∈ decimalZeros, c.value = first + d

/-- The digits of two scripts are never among one another. -/
theorem decimalZeros_disjoint : ∀ first ∈ decimalZeros, ∀ second ∈ decimalZeros,
    first < second + 10 → second < first + 10 → first = second := by
  decide +kernel

/-- Below U+0660 there are the ASCII digits only. -/
theorem decimalZeros_small : ∀ first ∈ decimalZeros, first < 0x660 → first = 0x30 := by
  decide

theorem isDigit_of_decimalValue?_eq_some {c : CodePoint} {d : Nat}
    (h : c.decimalValue? = some d) : c.IsDigit d := by
  rw [decimalValue?] at h
  split at h
  · split at h
    · cases h
      exact ⟨by omega, 0x30, by decide, by omega⟩
    · cases h
  · obtain ⟨first, hfirst, rfl⟩ := Option.map_eq_some_iff.mp h
    have hrange := List.find?_some hfirst
    simp only [Bool.and_eq_true, decide_eq_true_eq] at hrange
    exact ⟨by omega, first, List.mem_of_find?_eq_some hfirst, by omega⟩

theorem IsDigit.decimalValue?_eq_some {c : CodePoint} {d : Nat} (h : c.IsDigit d) :
    c.decimalValue? = some d := by
  obtain ⟨hd, first, hfirst, hvalue⟩ := h
  rw [decimalValue?]
  split
  · next hsmall =>
    obtain rfl := decimalZeros_small first hfirst (by omega)
    rw [if_pos (by omega)]
    exact congrArg some (by omega)
  · -- the search finds a zero within reach of the digit, and there is only one
    cases hfound : decimalZeros.find? fun first => first ≤ c.value && c.value < first + 10 with
    | none =>
      have hnone := List.find?_eq_none.mp hfound first hfirst
      simp only [Bool.and_eq_true, decide_eq_true_eq] at hnone
      omega
    | some found =>
      have hrange := List.find?_some hfound
      simp only [Bool.and_eq_true, decide_eq_true_eq] at hrange
      have hsame := decimalZeros_disjoint first hfirst found (List.mem_of_find?_eq_some hfound)
        (by omega) (by omega)
      rw [Option.map_some, ← hsame, hvalue, Nat.add_sub_cancel_left]

/-- The value of a digit is the one in the table. -/
theorem decimalValue?_eq_some_iff {c : CodePoint} {d : Nat} :
    c.decimalValue? = some d ↔ c.IsDigit d :=
  ⟨isDigit_of_decimalValue?_eq_some, IsDigit.decimalValue?_eq_some⟩

theorem isDecimal_iff {c : CodePoint} : c.isDecimal = true ↔ ∃ d, c.IsDigit d := by
  rw [isDecimal, Option.isSome_iff_exists]
  exact exists_congr fun _ => decimalValue?_eq_some_iff

/-- A digit is an ASCII one, or above U+0660. -/
theorem value_of_isDecimal {c : CodePoint} (h : c.isDecimal = true) :
    (0x30 ≤ c.value ∧ c.value ≤ 0x39) ∨ 0x660 ≤ c.value := by
  obtain ⟨d, hd, first, hfirst, hvalue⟩ := isDecimal_iff.mp h
  by_cases hbelow : first < 0x660
  · have hascii := decimalZeros_small first hfirst hbelow
    exact Or.inl (by omega)
  · exact Or.inr (by omega)

/-- No script keeps its digits near the blanks beyond U+0660, which are U+1680, some from U+2000 to
U+205F, and U+3000. -/
theorem decimalZeros_apart : ∀ first ∈ decimalZeros,
    first + 10 ≤ 0x1680 ∨ (0x1681 ≤ first ∧ first + 10 ≤ 0x2000) ∨
      (0x2060 ≤ first ∧ first + 10 ≤ 0x3000) ∨ 0x3001 ≤ first := by
  decide

theorem isBlank_of_isDecimal {c : CodePoint} (h : c.isDecimal = true) : c.isBlank = false := by
  have hascii := value_of_isDecimal h
  obtain ⟨d, hd, first, hfirst, hvalue⟩ := isDecimal_iff.mp h
  have hapart := decimalZeros_apart first hfirst
  rw [Bool.eq_false_iff]
  simp only [isBlank, isWhiteSpace, ne_eq, Bool.or_eq_true, Bool.and_eq_true, decide_eq_true_eq,
    beq_iff_eq]
  omega

@[simp] theorem isDecimal_plus : (CodePoint.char '+').isDecimal = false := by decide

@[simp] theorem isDecimal_minus : (CodePoint.char '-').isDecimal = false := by decide

end CodePoint

namespace Decimal

theorem leadingDigits_cons_of_isDecimal {c : CodePoint} (h : c.isDecimal = true) (rest : Text) :
    ∃ d, leadingDigits (c :: rest) = d :: leadingDigits rest := by
  rw [CodePoint.isDecimal, Option.isSome_iff_exists] at h
  obtain ⟨d, hd⟩ := h
  exact ⟨d, by rw [leadingDigits, hd]⟩

theorem leadingDigits_cons_of_not_isDecimal {c : CodePoint} (h : c.isDecimal = false)
    (rest : Text) : leadingDigits (c :: rest) = [] := by
  rw [CodePoint.isDecimal, Option.isSome_eq_false_iff, Option.isNone_iff_eq_none] at h
  rw [leadingDigits, h]

theorem length_leadingDigits (t : Text) :
    (leadingDigits t).length = (t.takeWhile CodePoint.isDecimal).length := by
  induction t with
  | nil => rfl
  | cons c rest ih =>
    by_cases hc : c.isDecimal = true
    · obtain ⟨d, hd⟩ := leadingDigits_cons_of_isDecimal hc rest
      rw [hd, List.takeWhile_cons_of_pos hc, List.length_cons, List.length_cons, ih]
    · rw [leadingDigits_cons_of_not_isDecimal (by simpa using hc),
        List.takeWhile_cons_of_neg hc]
      rfl

/-- The values of digits are below ten. -/
theorem lt_of_mem_leadingDigits {t : Text} {d : Nat} (h : d ∈ leadingDigits t) : d < 10 := by
  induction t with
  | nil => cases h
  | cons c rest ih =>
    rw [leadingDigits] at h
    split at h
    · next value hvalue =>
      rcases List.mem_cons.mp h with rfl | h
      · exact (CodePoint.isDigit_of_decimalValue?_eq_some hvalue).1
      · exact ih h
    · cases h

/-- Digits are read one by one, and what follows them is read as if they were not there. -/
theorem leadingDigits_append {run : Text} (h : ∀ c ∈ run, c.isDecimal = true) (rest : Text) :
    leadingDigits (run ++ rest) = leadingDigits run ++ leadingDigits rest := by
  induction run with
  | nil => rfl
  | cons c run ih =>
    have hc := h c (List.mem_cons_self ..)
    obtain ⟨d, hd⟩ := Option.isSome_iff_exists.mp hc
    simp only [List.cons_append, leadingDigits, hd,
      ih fun other hother => h other (List.mem_cons_of_mem _ hother)]

theorem length_leadingDigits_of_isDecimal {run : Text} (h : ∀ c ∈ run, c.isDecimal = true) :
    (leadingDigits run).length = run.length := by
  rw [length_leadingDigits, List.takeWhile_eq_self_iff.mpr h]

/-- More digits than a given number stand at the head of a text exactly if the text is such a run
and a rest; the run need not be the longest one. -/
theorem lt_length_leadingDigits_iff (t : Text) (n : Nat) :
    n < (leadingDigits t).length ↔
      ∃ digits rest, t = digits ++ rest ∧ (∀ c ∈ digits, c.isDecimal = true) ∧
        n < digits.length := by
  rw [length_leadingDigits]
  constructor
  · intro h
    refine ⟨t.takeWhile CodePoint.isDecimal, t.dropWhile CodePoint.isDecimal,
      List.takeWhile_append_dropWhile.symm, ?_, h⟩
    intro c hc
    exact List.all_eq_true.mp List.all_takeWhile c hc
  · rintro ⟨digits, rest, rfl, hdigits, h⟩
    rw [List.takeWhile_append_of_pos hdigits, List.length_append]
    omega

end Decimal

end DiagnosticRelay
