import DiagnosticRelay.Json.Writer
import DiagnosticRelay.Proofs.Json.Numeral
import DiagnosticRelay.Proofs.Text.Pieces
import Mathlib.Data.List.DropRight

/-!
# Floating-point numbers that are written and read

A finite number is written by its shortest decimal, laid out with a point or with an exponent, and
the reader takes such a text for a floating-point number and not for an integer, because one of the
two is always there.  The shortest decimal is found by a search, but nothing about the search
matters here: only that what it finds is not zero, so that the digits without the zeros at their
end begin with a digit other than zero (`exists_layOut_eq`).

A number that is not finite has no decimal.  The writer puts a literal for it that is not JSON, and
the reader of tool output refuses that literal (`readScalar_of_not_isFinite`).
-/

namespace DiagnosticRelay

namespace Binary64

/-! ## The shortest decimal -/

/-- What is found on a grid reads back. -/
theorem ofScientific_of_hitOnGrid? {mantissa hit : Nat} {exponent unit : Int}
    (h : hitOnGrid? mantissa exponent unit = some hit) :
    ofScientific false hit unit = .finite false mantissa exponent := by
  unfold hitOnGrid? at h
  simp only at h
  split at h
  · next hlow hhigh =>
    rw [beq_iff_eq] at hlow hhigh
    split at h
    · cases h
      exact hlow
    · cases h
      exact hhigh
    · cases h
      split
      · exact hlow
      · exact hhigh
  · next hlow _ =>
    cases h
    exact beq_iff_eq.mp hlow
  · next _ hhigh =>
    cases h
    exact beq_iff_eq.mp hhigh
  · cases h

/-- Nothing but zero reads back from zero, so zero is found only where the search fails. -/
theorem firstHit_snd_eq_zero {mantissa : Nat} (h : mantissa ≠ 0) (exponent top : Int) :
    ∀ tries digits, (firstHit mantissa exponent top tries digits).1 = 0 →
      (firstHit mantissa exponent top tries digits).2 = 0
  | 0, _ => fun _ => rfl
  | tries + 1, digits => by
    rw [firstHit]
    cases hhit : hitOnGrid? mantissa exponent (top - digits) with
    | none => exact firstHit_snd_eq_zero h exponent top tries (digits + 1)
    | some hit =>
      intro hzero
      have hback := ofScientific_of_hitOnGrid? hhit
      rw [show hit = 0 from hzero, ofScientific, if_pos rfl] at hback
      exact absurd (Binary64.finite.inj hback).2.1.symm h

/-! ## Digits without zeros at their end -/

theorem dropTrailingZeros_eq (digits : Text) :
    dropTrailingZeros digits = digits.rdropWhile (· == .char '0') := rfl

theorem dropTrailingZeros_ne_nil {c : CodePoint} (hc : c ≠ .char '0') (digits : Text) :
    dropTrailingZeros (c :: digits) ≠ [] := by
  rw [dropTrailingZeros_eq, ne_eq, List.rdropWhile_eq_nil_iff]
  exact fun hall => hc (beq_iff_eq.mp (hall c (List.mem_cons_self ..)))

/-- The significant digits of a number: none for zero, and else digits of which the first is not
zero. -/
theorem exists_dropTrailingZeros_eq (n : Nat) : ∃ digits : List Nat,
    dropTrailingZeros (Decimal.ofNat n) = digits.map .ofDigit ∧ (∀ d ∈ digits, d < 10) ∧
      digits.head? ≠ some 0 ∧ (digits = [] → n = 0) := by
  by_cases hn : n = 0
  · subst hn
    exact ⟨[], by rw [Decimal.ofNat_eq, Decimal.digitsOf_of_lt (by decide)]; rfl, by simp, by simp,
      fun _ => rfl⟩
  · have hall : dropTrailingZeros (Decimal.ofNat n) <+: Decimal.ofNat n :=
      List.rdropWhile_prefix _ _
    rw [Decimal.ofNat_eq n] at hall ⊢
    obtain ⟨digits, hstart, hdigits⟩ := List.prefix_map_iff.mp hall
    have hfirst := Decimal.head?_digitsOf_ne_zero hn
    obtain ⟨d, others, hcons⟩ := List.exists_cons_of_ne_nil (Decimal.digitsOf_ne_nil n)
    have hlt : d < 10 := Decimal.lt_of_mem_digitsOf (hcons ▸ List.mem_cons_self ..)
    have hd : d ≠ 0 := by simpa [hcons] using hfirst
    have hne : dropTrailingZeros ((Decimal.digitsOf n).map .ofDigit) ≠ [] := by
      rw [hcons]
      exact dropTrailingZeros_ne_nil (Json.ofDigit_ne hlt (show (0x30 : Nat) ≠ 0x30 + d by omega)) _
    refine ⟨digits, hdigits, fun _ hmem => Decimal.lt_of_mem_digitsOf (hstart.subset hmem), ?_, ?_⟩
    · intro hzero
      obtain ⟨tail, rfl⟩ := List.head?_eq_some_iff.mp hzero
      obtain ⟨after, hafter⟩ := hstart
      exact hfirst (by rw [← hafter]; rfl)
    · rintro rfl
      exact absurd hdigits hne

theorem zeros_eq (count : Nat) : zeros count = (List.replicate count 0).map .ofDigit := by
  rw [List.map_replicate]
  rfl

end Binary64

namespace Json

/-! ## The layout of a decimal -/

/-- What stands behind the whole digits of a floating-point number: a point and digits, an exponent,
or both. -/
inductive IsTail : Text → Prop where
  | fraction {digits : List Nat} (h : IsDigits digits) : IsTail (.char '.' :: digits.map .ofDigit)
  | exponent {sign : Char} {digits : List Nat} (hsign : sign = '+' ∨ sign = '-')
      (h : IsDigits digits) : IsTail (.char 'e' :: .char sign :: digits.map .ofDigit)
  | both {fraction digits : List Nat} {sign : Char} (hfraction : IsDigits fraction)
      (hsign : sign = '+' ∨ sign = '-') (h : IsDigits digits) :
      IsTail (.char '.' :: (fraction.map .ofDigit ++ .char 'e' :: .char sign
        :: digits.map .ofDigit))

theorem IsTail.stopsDigits {tail : Text} (h : IsTail tail) (rest : Text) :
    StopsDigits (tail ++ rest) := by
  cases h <;> exact stopsDigits_cons rfl _

theorem takeFraction_point {digits : List Nat} (h : IsDigits digits) {rest : Text}
    (hrest : StopsDigits rest) :
    takeFraction (.char '.' :: (digits.map .ofDigit ++ rest)) = (some digits, rest) := by
  obtain ⟨d, others, rfl⟩ := List.exists_cons_of_ne_nil h.nonempty
  simp only [takeFraction, takeDigits_map_ofDigit h.lt hrest]

theorem takeExponent_mark {sign : Char} (hsign : sign = '+' ∨ sign = '-') {digits : List Nat}
    (h : IsDigits digits) {rest : Text} (hrest : StopsDigits rest) :
    takeExponent (.char 'e' :: .char sign :: (digits.map .ofDigit ++ rest))
      = (some (Decimal.signed (sign == '-') (Decimal.valueOf digits)), rest) := by
  have htaken := takeDigits_map_ofDigit h.lt hrest
  obtain ⟨d, others, rfl⟩ := List.exists_cons_of_ne_nil h.nonempty
  rcases hsign with rfl | rfl <;>
    simp only [takeExponent, Decimal.takeSign, true_or, if_true, htaken] <;> rfl

/-- A tail is taken up to its end, and makes the number a floating-point number. -/
theorem IsTail.exists_take {tail : Text} (h : IsTail tail) : ∃ fraction exponent,
    (fraction ≠ none ∨ exponent ≠ none) ∧ ∀ rest, EndsToken rest →
      (takeFraction (tail ++ rest)).1 = fraction ∧
        takeExponent (takeFraction (tail ++ rest)).2 = (exponent, rest) := by
  cases h with
  | @fraction digits h =>
    refine ⟨some digits, none, by simp, fun rest hrest => ?_⟩
    rw [List.cons_append, takeFraction_point h hrest.stopsDigits]
    exact ⟨rfl, takeExponent_of_endsToken hrest⟩
  | @exponent sign digits hsign h =>
    exact ⟨none, some (Decimal.signed (sign == '-') (Decimal.valueOf digits)), by simp,
      fun rest hrest => ⟨rfl, takeExponent_mark hsign h hrest.stopsDigits⟩⟩
  | @both fraction digits sign hfraction hsign h =>
    refine ⟨some fraction, some (Decimal.signed (sign == '-') (Decimal.valueOf digits)), by simp,
      fun rest hrest => ?_⟩
    have hstops : StopsDigits (.char 'e' :: .char sign :: (digits.map .ofDigit ++ rest)) :=
      stopsDigits_cons rfl _
    rw [List.cons_append, List.append_assoc, List.cons_append, List.cons_append,
      takeFraction_point hfraction hstops]
    exact ⟨rfl, takeExponent_mark hsign h hrest.stopsDigits⟩

section LayOut

variable {digits : List Nat} (hlt : ∀ d ∈ digits, d < 10) (hhead : digits.head? ≠ some 0)
  {point : Int} (hpoint : digits = [] → point = 1)

theorem lt_of_mem_replicate_zero {count d : Nat} (h : d ∈ List.replicate count 0) : d < 10 := by
  rw [List.eq_of_mem_replicate h]
  decide

include hlt hhead hpoint

/-- In the positional layout there is always a digit behind the point. -/
theorem exists_layOut_eq_of_range (hrange : -4 < point ∧ point ≤ 16) :
    ∃ whole tail, IsWhole whole ∧ IsTail tail ∧
      Binary64.layOut (digits.map .ofDigit) point = whole.map .ofDigit ++ tail := by
  rw [Binary64.layOut, if_pos hrange, List.length_map]
  by_cases hbelow : point ≤ 0
  · -- a zero, the point, and more zeros before the digits
    have hne : digits ≠ [] := fun hnil => by
      rw [hpoint hnil] at hbelow
      omega
    have hfraction : IsDigits (List.replicate (-point).toNat 0 ++ digits) :=
      ⟨List.append_ne_nil_of_right_ne_nil _ hne, fun d hd =>
        (List.mem_append.mp hd).elim lt_of_mem_replicate_zero (hlt d)⟩
    refine ⟨[0], _, ⟨⟨by simp, by simp⟩, fun _ => rfl⟩, .fraction hfraction, ?_⟩
    rw [if_pos hbelow, Binary64.zeros_eq, List.map_append]
    rfl
  by_cases hwhole : (digits.length : Int) ≤ point
  · -- the digits and more zeros, and a zero behind the point
    refine ⟨digits ++ List.replicate (point - digits.length).toNat 0, _, ⟨⟨?_, fun d hd =>
      (List.mem_append.mp hd).elim (hlt d) lt_of_mem_replicate_zero⟩, ?_⟩,
      @IsTail.fraction [0] ⟨by simp, by simp⟩, ?_⟩
    · intro hnil
      obtain ⟨rfl, hrest⟩ := List.append_eq_nil_iff.mp hnil
      rw [hpoint rfl] at hrest
      cases hrest
    · intro hfirst
      cases digits with
      | nil => rw [hpoint rfl]; rfl
      | cons d others => exact absurd hfirst hhead
    · rw [if_neg hbelow, if_pos hwhole, Binary64.zeros_eq, List.map_append]
      rfl
  · -- the point stands between two digits
    have hfraction : IsDigits (digits.drop point.toNat) := by
      refine ⟨?_, fun d hd => hlt d (List.mem_of_mem_drop hd)⟩
      rw [ne_eq, List.drop_eq_nil_iff]
      omega
    refine ⟨digits.take point.toNat, _, ⟨⟨?_, fun d hd => hlt d (List.mem_of_mem_take hd)⟩, ?_⟩,
      .fraction hfraction, ?_⟩
    · rw [ne_eq, List.take_eq_nil_iff, not_or]
      refine ⟨by omega, fun hnil => hwhole ?_⟩
      rw [hpoint hnil, hnil]
      decide
    · rw [List.head?_take, if_neg (by omega)]
      exact fun hfirst => absurd hfirst hhead
    · rw [if_neg hbelow, if_neg hwhole, List.map_take, List.map_drop]

/-- In the other layout there is always an exponent. -/
theorem exists_layOut_eq_of_not_range (hrange : ¬(-4 < point ∧ point ≤ 16)) :
    ∃ whole tail, IsWhole whole ∧ IsTail tail ∧
      Binary64.layOut (digits.map .ofDigit) point = whole.map .ofDigit ++ tail := by
  have hne : digits ≠ [] := fun hnil => hrange (by rw [hpoint hnil]; decide)
  obtain ⟨d, others, rfl⟩ := List.exists_cons_of_ne_nil hne
  have hwhole : IsWhole [d] := ⟨⟨by simp, fun e he => hlt e (by simp_all)⟩, fun hfirst =>
    absurd hfirst hhead⟩
  have hsign : (if point - 1 < 0 then '-' else '+') = '+' ∨
      (if point - 1 < 0 then '-' else '+') = '-' := by
    split
    · exact Or.inr rfl
    · exact Or.inl rfl
  have hsize : IsDigits (List.replicate (2 - (Decimal.ofNat (point - 1).natAbs).length) 0
      ++ Decimal.digitsOf (point - 1).natAbs) :=
    ⟨List.append_ne_nil_of_right_ne_nil _ (Decimal.digitsOf_ne_nil _), fun d hd =>
      (List.mem_append.mp hd).elim lt_of_mem_replicate_zero Decimal.lt_of_mem_digitsOf⟩
  have hshown : Binary64.zeros (2 - (Decimal.ofNat (point - 1).natAbs).length)
      ++ Decimal.ofNat (point - 1).natAbs
        = (List.replicate (2 - (Decimal.ofNat (point - 1).natAbs).length) 0
          ++ Decimal.digitsOf (point - 1).natAbs).map .ofDigit := by
    rw [List.map_append, ← Binary64.zeros_eq, ← Decimal.ofNat_eq]
  rw [Binary64.layOut, if_neg hrange]
  simp only [hshown]
  cases others with
  | nil => exact ⟨[d], _, hwhole, .exponent hsign hsize, rfl⟩
  | cons e others =>
    have hfraction : IsDigits (e :: others) :=
      ⟨List.cons_ne_nil e others, fun f hf => hlt f (List.mem_cons_of_mem _ hf)⟩
    refine ⟨[d], _, hwhole, .both hfraction hsign hsize, ?_⟩
    rw [if_neg (by rw [List.length_map, List.length_cons, List.length_cons]; omega)]
    simp

/-- A decimal is laid out by whole digits and a tail. -/
theorem exists_layOut_eq : ∃ whole tail, IsWhole whole ∧ IsTail tail ∧
    Binary64.layOut (digits.map .ofDigit) point = whole.map .ofDigit ++ tail := by
  by_cases hrange : -4 < point ∧ point ≤ 16
  · exact exists_layOut_eq_of_range hlt hhead hpoint hrange
  · exact exists_layOut_eq_of_not_range hlt hhead hpoint hrange

end LayOut

/-- A finite number is written by a sign, whole digits and a tail. -/
theorem exists_display_eq {x : Binary64} (h : x.isFinite = true) :
    ∃ negative whole tail, IsWhole whole ∧ IsTail tail ∧
      x.display = minus negative ++ (whole.map .ofDigit ++ tail) := by
  cases x with
  | nan => cases h
  | infinite => cases h
  | finite negative mantissa exponent =>
    have hsigned (magnitude : Text) : (if negative then .char '-' :: magnitude else magnitude)
        = minus negative ++ magnitude := by
      cases negative <;> rfl
    by_cases hmantissa : mantissa = 0
    · refine ⟨negative, [0], _, ⟨⟨by simp, by simp⟩, fun _ => rfl⟩,
        @IsTail.fraction [0] ⟨by simp, by simp⟩, ?_⟩
      rw [Binary64.display, ← hsigned]
      simp only [if_pos hmantissa]
      rfl
    · obtain ⟨digits, hdigits, hlt, hhead, hnil⟩ :=
        Binary64.exists_dropTrailingZeros_eq (Binary64.shortestDecimal mantissa exponent).1
      have hpoint : digits = [] →
          ((Decimal.ofNat (Binary64.shortestDecimal mantissa exponent).1).length : Int)
            + (Binary64.shortestDecimal mantissa exponent).2 = 1 := by
        intro hempty
        have hzero := hnil hempty
        have hunit : (Binary64.shortestDecimal mantissa exponent).2 = 0 :=
          Binary64.firstHit_snd_eq_zero hmantissa _ _ _ _ hzero
        rw [hzero, hunit, Decimal.ofNat_eq, Decimal.digitsOf_of_lt (by decide)]
        rfl
      obtain ⟨whole, tail, hwhole, htail, heq⟩ := exists_layOut_eq hlt hhead hpoint
      refine ⟨negative, whole, tail, hwhole, htail, ?_⟩
      rw [Binary64.display, ← hsigned, ← heq, ← hdigits]
      simp only [if_neg hmantissa]

/-! ## Reading -/

/-- What is written of a finite number is read as some floating-point number. -/
theorem exists_readScalar_display {x : Binary64} (h : x.isFinite = true) : ∃ y, ∀ literals rest,
    EndsToken rest → readScalar literals (x.display ++ rest) = .ok (.float y, rest) := by
  obtain ⟨negative, whole, tail, hwhole, htail, heq⟩ := exists_display_eq h
  obtain ⟨fraction, exponent, hsome, htake⟩ := htail.exists_take
  have hvalue : ∃ y, Numeral.value ⟨negative, whole, fraction, exponent⟩ = .ok (.float y) := by
    cases fraction with
    | some => exact ⟨_, rfl⟩
    | none =>
      cases exponent with
      | some => exact ⟨_, rfl⟩
      | none => exact absurd hsome (by simp)
  obtain ⟨y, hy⟩ := hvalue
  refine ⟨y, fun literals rest hrest => ?_⟩
  obtain ⟨hfraction, hexponent⟩ := htake rest hrest
  rw [heq, List.append_assoc, List.append_assoc, readScalar_minus_append literals hwhole
    (htail.stopsDigits rest), hfraction, hexponent, hy]
  rfl

end Json

/-- The number that is read where a number was written. -/
def Binary64.reread (x : Binary64) : Binary64 :=
  match Json.readScalar .finite x.display with
  | .ok (.float y, _) => y
  | _ => x

namespace Json

/-- **A finite number is read as a floating-point number.** -/
theorem readScalar_writeFloat {x : Binary64} (h : x.isFinite = true) (literals : Literals)
    {rest : Text} (hrest : EndsToken rest) :
    readScalar literals (writeFloat x ++ rest) = .ok (.float x.reread, rest) := by
  obtain ⟨y, hy⟩ := exists_readScalar_display h
  have hreread : x.reread = y := by
    have hnil := hy .finite [] endsToken_nil
    rw [List.append_nil] at hnil
    rw [Binary64.reread, hnil]
  have hwrite : writeFloat x = x.display := by
    cases x with
    | finite => rfl
    | nan | infinite => cases h
  rw [hreread, hwrite, hy literals rest hrest]

theorem not_isFinite_cases {x : Binary64} (h : x.isFinite = false) :
    x = .nan ∨ x = .infinite false ∨ x = .infinite true := by
  cases x with
  | finite => cases h
  | nan => exact Or.inl rfl
  | infinite negative => cases negative <;> simp

/-- The literal of a number that is not finite is known to the reader. -/
theorem takeNonFinite?_writeFloat {x : Binary64} (h : x.isFinite = false) (rest : Text) :
    takeNonFinite? (writeFloat x ++ rest) = some (writeFloat x, x, rest) := by
  have hself (word : Text) : Text.dropStart? (word ++ rest) word = some rest :=
    Text.dropStart?_eq_some_iff.mpr rfl
  have hplus : Text.dropStart? (text "Infinity" ++ rest) (text "NaN") = none := rfl
  have hminus : Text.dropStart? (text "-Infinity" ++ rest) (text "NaN") = none := rfl
  have hsign : Text.dropStart? (text "-Infinity" ++ rest) (text "Infinity") = none := rfl
  rcases not_isFinite_cases h with rfl | rfl | rfl <;>
    simp only [writeFloat, takeNonFinite?, nonFiniteLiterals, List.findSome?_cons, hplus, hminus,
      hsign, hself, Option.map_none, Option.map_some, Bool.false_eq_true, if_false, if_true]

/-- It is no other word. -/
theorem dropStart?_writeFloat {x : Binary64} (h : x.isFinite = false) (rest : Text) :
    Text.dropStart? (writeFloat x ++ rest) (text "null") = none ∧
      Text.dropStart? (writeFloat x ++ rest) (text "true") = none ∧
      Text.dropStart? (writeFloat x ++ rest) (text "false") = none := by
  rcases not_isFinite_cases h with rfl | rfl | rfl <;> exact ⟨rfl, rfl, rfl⟩

/-- **A number that is not finite is refused**, unless its literal is part of the language. -/
theorem readScalar_of_not_isFinite {x : Binary64} (h : x.isFinite = false) (literals : Literals)
    (rest : Text) :
    readScalar literals (writeFloat x ++ rest) = match literals with
      | .finite => .error (.nonFinite (writeFloat x))
      | .extended => .ok (.float x, rest) := by
  obtain ⟨hnull, htrue, hfalse⟩ := dropStart?_writeFloat h rest
  cases literals <;>
    simp only [readScalar, hnull, htrue, hfalse, takeNonFinite?_writeFloat h rest]

end Json

end DiagnosticRelay
