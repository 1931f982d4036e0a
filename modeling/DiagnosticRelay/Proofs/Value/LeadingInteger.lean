import DiagnosticRelay.Proofs.Number.Magnitude
import DiagnosticRelay.Proofs.Value.Overlong
import Mathlib.Data.List.Forall2
import Mathlib.Data.List.Induction
import Mathlib.Data.Nat.Digits.Defs

/-!
# The integer at the head of a text

A text contributes its leading integer.  `IntegerCut` is a text cut as such an integer and what
follows it, with the values of its digits: blanks, perhaps a sign, the longest run of digits, and a
rest that does not begin with a digit.  Nothing in a cut refers to the reader; a digit and its value
are those of the table of zeros.

* `leadingInteger?_of_isOf` reads a text with a cut: by position, or not at all if there are too
  many digits.
* `exists_isOf_iff` finds a cut for every text that has a digit in the right place, so the texts
  without a cut are the ones that contribute nothing.
* `isOf_ofInt` is the cut of a number that is written in front of something else.

The reader looks only forwards: no blank is a sign or a digit, and no sign is a digit, so each part
ends where the next one begins.
-/

namespace DiagnosticRelay

namespace Decimal

/-- Digits are read by position. -/
theorem valueOf_eq_ofDigits (digits : List Nat) :
    valueOf digits = Nat.ofDigits 10 digits.reverse := by
  induction digits using List.reverseRecOn with
  | nil => rfl
  | append_singleton digits d ih =>
    rw [valueOf_append, ih, List.reverse_append, List.reverse_singleton, List.singleton_append,
      Nat.ofDigits_cons, Nat.add_comm]

/-- The digits at the head of a text, up to the first code point that is none. -/
theorem leadingDigits_of_forall₂ {digits rest : Text} {values : List Nat}
    (h : List.Forall₂ CodePoint.IsDigit digits values)
    (hrest : ∀ c ∈ rest.head?, ∀ d, ¬c.IsDigit d) :
    leadingDigits (digits ++ rest) = values := by
  induction h with
  | nil =>
    cases rest with
    | nil => rfl
    | cons c rest =>
      refine leadingDigits_cons_of_not_isDecimal ?_ rest
      rw [Bool.eq_false_iff, ne_eq, CodePoint.isDecimal_iff, not_exists]
      exact hrest c rfl
  | cons hd hdigits ih =>
    rw [List.cons_append, leadingDigits, hd.decimalValue?_eq_some]
    simp only [ih]

end Decimal

/-- A text that begins with an integer: blanks, perhaps a sign, digits with their values, and what
follows them. -/
structure IntegerCut where
  blanks : Text
  sign : Text
  digits : Text
  values : List Nat
  rest : Text

namespace IntegerCut

variable {cut : IntegerCut} {t : Text}

/-- A cut of a given text; the run of digits is the longest one. -/
structure IsOf (t : Text) (cut : IntegerCut) : Prop where
  text_eq : cut.blanks ++ (cut.sign ++ (cut.digits ++ cut.rest)) = t
  blanks : ∀ c ∈ cut.blanks, c.isBlank = true
  sign : cut.sign = [] ∨ cut.sign = [.char '+'] ∨ cut.sign = [.char '-']
  digits_ne_nil : cut.digits ≠ []
  digits : List.Forall₂ CodePoint.IsDigit cut.digits cut.values
  rest : ∀ c ∈ cut.rest.head?, ∀ d, ¬c.IsDigit d

/-- The integer of a cut: its digits by position, the last one first, with the sign. -/
def value (cut : IntegerCut) : Int :=
  Decimal.signed (cut.sign == [.char '-']) (Nat.ofDigits 10 cut.values.reverse)

/-! ## Reading a cut -/

/-- The decimal digits are those that have a value. -/
theorem exists_values_iff (digits : Text) :
    (∃ values, List.Forall₂ CodePoint.IsDigit digits values) ↔
      ∀ c ∈ digits, c.isDecimal = true := by
  induction digits with
  | nil => simp
  | cons c digits ih =>
    rw [List.forall_mem_cons, ← ih, CodePoint.isDecimal_iff]
    constructor
    · rintro ⟨values, hvalues⟩
      obtain ⟨d, others, hd, hothers, -⟩ := List.forall₂_cons_left_iff.mp hvalues
      exact ⟨⟨d, hd⟩, ⟨others, hothers⟩⟩
    · rintro ⟨⟨d, hd⟩, ⟨values, hvalues⟩⟩
      exact ⟨d :: values, List.Forall₂.cons hd hvalues⟩

theorem IsOf.isDecimal (h : cut.IsOf t) : ∀ c ∈ cut.digits, c.isDecimal = true :=
  (exists_values_iff cut.digits).mp ⟨cut.values, h.digits⟩

theorem IsOf.takeSign_eq (h : cut.IsOf t) :
    Decimal.takeSign (t.dropWhile CodePoint.isBlank)
      = (cut.sign == [.char '-'], cut.digits ++ cut.rest) := by
  obtain ⟨c, digits, hdigits⟩ := List.exists_cons_of_ne_nil h.digits_ne_nil
  have hc : c.isDecimal = true := h.isDecimal c (by rw [hdigits]; exact List.mem_cons_self ..)
  rw [← h.text_eq, List.dropWhile_append_of_pos h.blanks, hdigits]
  rcases h.sign with hsign | hsign | hsign
  · rw [hsign, List.nil_append, List.cons_append,
      List.dropWhile_cons_of_neg (by simp [CodePoint.isBlank_of_isDecimal hc])]
    rw [takeSign_cons_of_isDecimal hc]
    rfl
  · rw [hsign]
    rfl
  · rw [hsign]
    rfl

theorem IsOf.leadingDigits_eq (h : cut.IsOf t) :
    Decimal.leadingDigits (unsigned t) = cut.values := by
  rw [unsigned, h.takeSign_eq]
  exact Decimal.leadingDigits_of_forall₂ h.digits h.rest

theorem IsOf.values_ne_nil (h : cut.IsOf t) : cut.values ≠ [] := by
  intro hvalues
  have hall := h.digits
  rw [hvalues, List.forall₂_nil_right_iff] at hall
  exact h.digits_ne_nil hall

/-- A text with a cut is read by it, if it does not have too many digits. -/
theorem leadingInteger?_of_isOf (h : cut.IsOf t) :
    leadingInteger? t = if cut.digits.length ≤ Decimal.digitLimit then .ok (some cut.value)
      else .error (.tooManyDigits cut.digits.length) := by
  obtain ⟨d, values, hvalues⟩ := List.exists_cons_of_ne_nil h.values_ne_nil
  have hread : Decimal.leadingDigits (unsigned t) = d :: values := h.leadingDigits_eq.trans hvalues
  rw [leadingInteger?_eq, integerOf, hread, h.takeSign_eq, value, hvalues]
  simp only [Decimal.readDigits, h.digits.length_eq, hvalues, Decimal.valueOf_eq_ofDigits]
  by_cases hlength : (d :: values).length ≤ Decimal.digitLimit
  · rw [if_pos hlength, if_pos hlength]
  · rw [if_neg hlength, if_neg hlength]

/-! ## Finding a cut -/

/-- A text with a digit behind its blanks and its sign has a cut, in which the run of digits goes on
for as long as it can. -/
theorem exists_isOf_iff : (∃ cut : IntegerCut, cut.IsOf t) ↔ t.HasDigits 0 := by
  constructor
  · rintro ⟨cut, h⟩
    exact ⟨cut.blanks, cut.sign, cut.digits, cut.rest, h.text_eq.symm, h.blanks, h.sign,
      h.isDecimal, List.length_pos_iff.mpr h.digits_ne_nil⟩
  · rintro ⟨blanks, sign, digits, rest, rfl, hblanks, hsign, hdigits, hlength⟩
    let run := (digits ++ rest).takeWhile CodePoint.isDecimal
    have hrun : ∀ c ∈ run, c.isDecimal = true := fun c hc => List.mem_takeWhile_imp hc
    obtain ⟨values, hvalues⟩ := (exists_values_iff run).mpr hrun
    refine ⟨⟨blanks, sign, run, values, (digits ++ rest).dropWhile CodePoint.isDecimal⟩,
      ?_, hblanks, hsign, ?_, hvalues, ?_⟩
    · rw [List.takeWhile_append_dropWhile]
    · intro hnil
      rw [show run = _ from List.takeWhile_append_of_pos hdigits, List.append_eq_nil_iff] at hnil
      exact hlength.ne' (List.length_eq_zero_iff.mpr hnil.1)
    · intro c hc d hd
      have hdecimal := List.head?_dropWhile_not CodePoint.isDecimal (digits ++ rest)
      rw [Option.mem_def.mp hc] at hdecimal
      simp only [CodePoint.isDecimal_iff.mpr ⟨d, hd⟩] at hdecimal
      exact Bool.noConfusion hdecimal

/-! ## Written numbers -/

/-- A number in front of a text that does not go on with a digit. -/
def ofInt (k : Int) (rest : Text) : IntegerCut where
  blanks := []
  sign := if k < 0 then [.char '-'] else []
  digits := (Decimal.digitsOf k.natAbs).map .ofDigit
  values := Decimal.digitsOf k.natAbs
  rest := rest

theorem value_ofInt (k : Int) (rest : Text) : (ofInt k rest).value = k := by
  rw [value, ofInt, ← Decimal.valueOf_eq_ofDigits, Decimal.valueOf_digitsOf]
  by_cases h : k < 0
  · rw [if_pos h, beq_self_eq_true, Decimal.signed_true]
    omega
  · rw [if_neg h]
    show (k.natAbs : Int) = k
    omega

theorem isOf_ofInt (k : Int) {rest : Text} (hrest : ∀ c ∈ rest.head?, ∀ d, ¬c.IsDigit d) :
    (ofInt k rest).IsOf (Decimal.ofInt k ++ rest) := by
  refine ⟨?_, fun c hc => absurd hc List.not_mem_nil, ?_, ?_, ?_, hrest⟩
  · cases k with
    | ofNat n =>
      rw [Decimal.ofInt, Decimal.ofNat_eq]
      rfl
    | negSucc n =>
      have hsign : (ofInt (.negSucc n) rest).sign = [.char '-'] := if_pos (Int.negSucc_lt_zero n)
      rw [hsign, Decimal.ofInt, Decimal.ofNat_eq]
      rfl
  · by_cases h : k < 0
    · exact Or.inr (Or.inr (if_pos h))
    · exact Or.inl (if_neg h)
  · exact fun hnil => Decimal.digitsOf_ne_nil _ (List.map_eq_nil_iff.mp hnil)
  · refine List.forall₂_map_left_iff.mpr (List.forall₂_same.mpr fun d hd => ?_)
    exact CodePoint.isDigit_of_decimalValue?_eq_some
      (CodePoint.decimalValue?_ofDigit d (Decimal.lt_of_mem_digitsOf hd))

end IntegerCut

/-- **The integer at the head of a text is read exactly.**  A text with a cut gives the integer of
the cut, unless its digits are more than are converted, which is a fault; any other text gives the
default.  In particular a number that is written in front of something else is read back. -/
theorem Value.toIntOr_leadingInteger (t : Text) (default : Int) :
    (∀ cut : IntegerCut, cut.IsOf t → Value.toIntOr default (.str t)
        = if cut.digits.length ≤ Decimal.digitLimit then .ok cut.value
          else .error (.tooManyDigits cut.digits.length)) ∧
    ((∀ cut : IntegerCut, ¬cut.IsOf t) → Value.toIntOr default (.str t) = .ok default) ∧
    ∀ (k : Int) (rest : Text), IsShort k → (∀ c ∈ rest.head?, ∀ d, ¬c.IsDigit d) →
      Value.toIntOr default (.str (Decimal.ofInt k ++ rest)) = .ok k := by
  have hcut {t : Text} {cut : IntegerCut} (h : cut.IsOf t) : Value.toIntOr default (.str t)
      = if cut.digits.length ≤ Decimal.digitLimit then .ok cut.value
        else .error (.tooManyDigits cut.digits.length) := by
    rw [toIntOr, IntegerCut.leadingInteger?_of_isOf h]
    split <;> rfl
  refine ⟨fun cut h => hcut h, fun h => ?_, fun k rest hk hrest => ?_⟩
  · have hdigits : ¬t.HasDigits 0 := IntegerCut.exists_isOf_iff.not.mp (not_exists.mpr h)
    rw [toIntOr, leadingInteger?_of_not_hasDigits hdigits]
    rfl
  · rw [hcut (IntegerCut.isOf_ofInt k hrest), IntegerCut.value_ofInt, if_pos]
    rw [IntegerCut.ofInt, List.length_map]
    exact (Decimal.length_digitsOf_le_iff (by decide)).mpr hk

/-- A text with a blank, a sign and the digits 4 and 3 of two scripts is read in spite of the
letter behind them; with a letter before them it is not; and a number in front of a letter is read
back. -/
theorem Value.toIntOr_leadingInteger_mixed :
    Value.toIntOr 7 (.str (text "\u00a0-4\u0663x")) = .ok (-43) ∧
    Value.toIntOr 7 (.str (text "x4")) = .ok 7 ∧
    Value.toIntOr 7 (.str (Decimal.ofInt (-120) ++ text "x")) = .ok (-120) := by
  let cut : IntegerCut := ⟨text "\u00a0", text "-", text "4\u0663", [4, 3], text "x"⟩
  have hletter : ∀ c ∈ (text "x").head?, ∀ d, ¬c.IsDigit d := by
    intro c hc d hd
    have hx : c = .char 'x' := (Option.some.inj hc).symm
    have hvalue := hd.decimalValue?_eq_some
    rw [hx, show (CodePoint.char 'x').decimalValue? = none by decide] at hvalue
    cases hvalue
  have hcut : cut.IsOf (text "\u00a0-4\u0663x") := by
    refine ⟨rfl, by decide, Or.inr (Or.inr rfl), by decide, ?_, hletter⟩
    exact .cons (CodePoint.decimalValue?_eq_some_iff.mp (by decide))
      (.cons (CodePoint.decimalValue?_eq_some_iff.mp (by decide)) .nil)
  have hnone (cut : IntegerCut) : ¬cut.IsOf (text "x4") := fun h =>
    h.values_ne_nil (h.leadingDigits_eq.symm.trans (by decide))
  have hshort : IsShort (-120) := isShort_of_le (show 7 < Decimal.digitLimit by decide) (by decide)
  have hmixed := Value.toIntOr_leadingInteger (text "\u00a0-4\u0663x") 7
  have hlater := Value.toIntOr_leadingInteger (text "x4") 7
  refine ⟨(hmixed.1 cut hcut).trans ?_, hlater.2.1 hnone,
    hlater.2.2 (-120) (text "x") hshort hletter⟩
  rw [if_pos (by decide)]
  rfl

end DiagnosticRelay
