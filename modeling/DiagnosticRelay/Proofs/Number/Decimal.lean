import DiagnosticRelay.Number.Decimal
import Mathlib.Algebra.Group.Nat.Defs

/-!
# Digits of a number

A number is written by its digits to base ten, the last of which is its remainder.  `digitsOf` is
the list of their values, and everything that is known about the written form is known about that
list: it stands for the number (`valueOf_digitsOf`), its members are below ten, and it has at most
`k` members exactly if the number is below `10 ^ k` (`length_digitsOf_le_iff`).

The written form is the list digit by digit (`ofNat_eq`), so a reader of digits finds the list again
(`leadingDigits_ofNat`) and converts it to the number, unless there are too many digits
(`readDigits_digitsOf`).
-/

namespace DiagnosticRelay

namespace CodePoint

@[simp] theorem value_ofDigit : ∀ d < 10, (ofDigit d).value = 0x30 + d := by decide

theorem decimalValue?_ofDigit : ∀ d < 10, (ofDigit d).decimalValue? = some d := by decide

theorem asciiDigit?_ofDigit : ∀ d < 10, (ofDigit d).asciiDigit? = some d := by decide

theorem isDecimal_ofDigit {d : Nat} (h : d < 10) : (ofDigit d).isDecimal = true := by
  rw [isDecimal, decimalValue?_ofDigit d h]
  rfl

end CodePoint

namespace Decimal

/-- The values of the digits of a number, the first digit first. -/
def digitsOf (n : Nat) : List Nat :=
  if n < 10 then [n] else digitsOf (n / 10) ++ [n % 10]

theorem digitsOf_of_lt {n : Nat} (h : n < 10) : digitsOf n = [n] := by
  rw [digitsOf, if_pos h]

theorem digitsOf_of_le {n : Nat} (h : 10 ≤ n) : digitsOf n = digitsOf (n / 10) ++ [n % 10] := by
  rw [digitsOf, if_neg (by omega)]

theorem digitsOnto_eq (n : Nat) (rest : Text) :
    digitsOnto n rest = (digitsOf n).map .ofDigit ++ rest := by
  fun_induction digitsOnto n rest with
  | case1 n rest h => rw [digitsOf_of_lt h]; rfl
  | case2 n rest h ih =>
    rw [ih, digitsOf_of_le (n := n) (by omega), List.map_append, List.append_assoc]
    rfl

/-- A number is written digit by digit. -/
theorem ofNat_eq (n : Nat) : ofNat n = (digitsOf n).map .ofDigit := by
  rw [ofNat, digitsOnto_eq, List.append_nil]

theorem digitsOf_ne_nil (n : Nat) : digitsOf n ≠ [] := by
  rw [digitsOf]
  split <;> simp

theorem lt_of_mem_digitsOf {n d : Nat} (h : d ∈ digitsOf n) : d < 10 := by
  fun_induction digitsOf n with
  | case1 n hn => rwa [List.mem_singleton.mp h]
  | case2 n hn ih =>
    rcases List.mem_append.mp h with h | h
    · exact ih h
    · rw [List.mem_singleton.mp h]
      exact Nat.mod_lt n (by omega)

/-- No number but zero is written with a zero first. -/
theorem head?_digitsOf_ne_zero {n : Nat} (h : n ≠ 0) : (digitsOf n).head? ≠ some 0 := by
  fun_induction digitsOf n with
  | case1 n hn => simpa using h
  | case2 n hn ih =>
    obtain ⟨first, digits, hfirst⟩ := List.exists_cons_of_ne_nil (digitsOf_ne_nil (n / 10))
    rw [hfirst] at ih ⊢
    exact ih (by omega)

theorem valueOf_append (digits : List Nat) (d : Nat) :
    valueOf (digits ++ [d]) = 10 * valueOf digits + d := by
  rw [valueOf, List.foldl_append]
  rfl

/-- The digits of a number stand for it. -/
theorem valueOf_digitsOf (n : Nat) : valueOf (digitsOf n) = n := by
  fun_induction digitsOf n with
  | case1 n hn => exact Nat.zero_add n
  | case2 n hn ih =>
    rw [valueOf_append, ih]
    omega

/-- A number has at most so many digits exactly if it is below that power of ten. -/
theorem length_digitsOf_le_iff {n k : Nat} (hk : 0 < k) :
    (digitsOf n).length ≤ k ↔ n < 10 ^ k := by
  obtain ⟨k, rfl⟩ : ∃ less, k = less + 1 := ⟨k - 1, by omega⟩
  clear hk
  induction k generalizing n with
  | zero =>
    by_cases hn : n < 10
    · simp [digitsOf_of_lt hn, hn]
    · have hmore := List.length_pos_iff.mpr (digitsOf_ne_nil (n / 10))
      rw [digitsOf_of_le (by omega), List.length_append, List.length_singleton]
      omega
  | succ k ih =>
    rw [Nat.pow_succ, ← Nat.div_lt_iff_lt_mul (by omega), ← ih]
    by_cases hn : n < 10
    · rw [digitsOf_of_lt hn, digitsOf_of_lt (n := n / 10) (by omega)]
      simp
    · rw [digitsOf_of_le (by omega), List.length_append, List.length_singleton]
      omega

/-- Reading on after a number makes it at most so many times greater. -/
theorem foldl_lt {digits : List Nat} (h : ∀ d ∈ digits, d < 10) (n : Nat) :
    digits.foldl (fun n d => 10 * n + d) n < (n + 1) * 10 ^ digits.length := by
  induction digits generalizing n with
  | nil => simp
  | cons d digits ih =>
    have hd : d < 10 := h d (List.mem_cons_self ..)
    calc digits.foldl (fun n d => 10 * n + d) (10 * n + d)
        < (10 * n + d + 1) * 10 ^ digits.length :=
          ih (fun other hother => h other (List.mem_cons_of_mem _ hother)) _
      _ ≤ (n + 1) * 10 * 10 ^ digits.length := Nat.mul_le_mul_right _ (by omega)
      _ = (n + 1) * 10 ^ (d :: digits).length := by
          rw [List.length_cons, Nat.pow_succ, Nat.mul_assoc, Nat.mul_comm 10]

/-- A number of some digits is below that power of ten. -/
theorem valueOf_lt {digits : List Nat} (h : ∀ d ∈ digits, d < 10) :
    valueOf digits < 10 ^ digits.length := by
  simpa [valueOf] using foldl_lt h 0

theorem leadingDigits_map_ofDigit {digits : List Nat} (h : ∀ d ∈ digits, d < 10) :
    leadingDigits (digits.map .ofDigit) = digits := by
  induction digits with
  | nil => rfl
  | cons d digits ih =>
    rw [List.map_cons, leadingDigits,
      CodePoint.decimalValue?_ofDigit d (h d (List.mem_cons_self ..))]
    simp only [ih fun other hother => h other (List.mem_cons_of_mem _ hother)]

/-- The digits of a number are read back. -/
theorem leadingDigits_ofNat (n : Nat) : leadingDigits (ofNat n) = digitsOf n := by
  rw [ofNat_eq, leadingDigits_map_ofDigit fun _ hd => lt_of_mem_digitsOf hd]

/-- The number that was written is read again, as long as its digits are converted. -/
theorem readDigits_digitsOf {n : Nat} (h : n < 10 ^ digitLimit) :
    readDigits (digitsOf n) = .ok n := by
  rw [readDigits, if_pos ((length_digitsOf_le_iff (by decide)).mpr h), valueOf_digitsOf]

end Decimal

end DiagnosticRelay
