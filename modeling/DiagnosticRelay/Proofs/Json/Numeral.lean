import DiagnosticRelay.Json.Reader
import DiagnosticRelay.Proofs.Number.Decimal

/-!
# Numbers that are written and read

A number is written by its digits, perhaps after a minus sign.  The reader takes a number as long
as possible, so it matters what follows: in a document that is nothing, a comma or the end of a line
(`EndsToken`), none of which continues a number.  The reader tries the literals first, and none of
them begins like a number.

`readScalar_minus_append` says what is read of digits that begin a number (`IsWhole`), whatever
follows them.  For an integer nothing does, and what is read is the integer, as long as its digits
are converted (`readScalar_ofInt`).
-/

namespace DiagnosticRelay

namespace Json

/-! ## What follows a number -/

/-- Nothing, a comma or the end of a line. -/
def EndsToken (t : Text) : Prop := ∀ c, t.head? = some c → c = .char ',' ∨ c = .char '\n'

theorem endsToken_nil : EndsToken [] := by
  rintro c ⟨⟩

theorem endsToken_comma (rest : Text) : EndsToken (.char ',' :: rest) := by
  rintro c ⟨⟩
  exact Or.inl rfl

theorem endsToken_lineFeed (rest : Text) : EndsToken (.char '\n' :: rest) := by
  rintro c ⟨⟩
  exact Or.inr rfl

/-- No mark of a fraction, an exponent or a further digit follows. -/
theorem EndsToken.cases {t : Text} (h : EndsToken t) :
    t = [] ∨ (∃ rest, t = .char ',' :: rest) ∨ ∃ rest, t = .char '\n' :: rest := by
  cases t with
  | nil => exact Or.inl rfl
  | cons c rest =>
    rcases h c rfl with rfl | rfl
    · exact Or.inr (Or.inl ⟨rest, rfl⟩)
    · exact Or.inr (Or.inr ⟨rest, rfl⟩)

/-- A text that does not go on with a digit. -/
def StopsDigits (t : Text) : Prop := ∀ c, t.head? = some c → c.asciiDigit? = none

theorem stopsDigits_cons {c : CodePoint} (h : c.asciiDigit? = none) (rest : Text) :
    StopsDigits (c :: rest) := by
  rintro d ⟨⟩
  exact h

theorem EndsToken.stopsDigits {t : Text} (h : EndsToken t) : StopsDigits t := by
  intro c hc
  rcases h c hc with rfl | rfl <;> rfl

theorem takeDigits_map_ofDigit {digits : List Nat} (h : ∀ d ∈ digits, d < 10) {rest : Text}
    (hrest : StopsDigits rest) : takeDigits (digits.map .ofDigit ++ rest) = (digits, rest) := by
  induction digits with
  | nil =>
    cases rest with
    | nil => rfl
    | cons c rest =>
      rw [List.map_nil, List.nil_append, takeDigits, hrest c rfl]
  | cons d digits ih =>
    have hd := CodePoint.asciiDigit?_ofDigit d (h d (List.mem_cons_self ..))
    rw [List.map_cons, List.cons_append, takeDigits, hd]
    simp only [ih fun other hother => h other (List.mem_cons_of_mem _ hother)]

theorem takeFraction_of_endsToken {rest : Text} (h : EndsToken rest) :
    takeFraction rest = (none, rest) := by
  rcases h.cases with rfl | ⟨rest, rfl⟩ | ⟨rest, rfl⟩ <;> rfl

theorem takeExponent_of_endsToken {rest : Text} (h : EndsToken rest) :
    takeExponent rest = (none, rest) := by
  rcases h.cases with rfl | ⟨rest, rfl⟩ | ⟨rest, rfl⟩ <;> rfl

/-! ## The beginning of a number -/

/-- A minus sign, where there is one. -/
def minus (negative : Bool) : Text := if negative then [.char '-'] else []

/-- Two digits that are not the same are written differently, and no digit is a minus sign. -/
theorem ofDigit_ne {d : Nat} (hd : d < 10) {c : CodePoint} (hc : c.value ≠ 0x30 + d) :
    CodePoint.ofDigit d ≠ c := by
  rintro rfl
  exact hc (CodePoint.value_ofDigit d hd)

/-- Some digits. -/
structure IsDigits (digits : List Nat) : Prop where
  nonempty : digits ≠ []
  lt : ∀ d ∈ digits, d < 10

/-- The digits of a number before its point: a zero stands there only by itself. -/
structure IsWhole (digits : List Nat) : Prop extends IsDigits digits where
  leading : digits.head? = some 0 → digits = [0]

theorem isDigits_digitsOf (n : Nat) : IsDigits (Decimal.digitsOf n) :=
  ⟨Decimal.digitsOf_ne_nil n, fun _ => Decimal.lt_of_mem_digitsOf⟩

theorem isWhole_digitsOf (n : Nat) : IsWhole (Decimal.digitsOf n) where
  toIsDigits := isDigits_digitsOf n
  leading := by
    intro hzero
    by_cases hn : n = 0
    · rw [hn, Decimal.digitsOf_of_lt (by decide)]
    · exact absurd hzero (Decimal.head?_digitsOf_ne_zero hn)

/-- The whole digits of a number are taken, and then what follows them. -/
theorem takeNumeral?_minus_append {whole : List Nat} (h : IsWhole whole) {rest : Text}
    (hrest : StopsDigits rest) (negative : Bool) :
    takeNumeral? (minus negative ++ (whole.map .ofDigit ++ rest))
      = some (⟨negative, whole, (takeFraction rest).1, (takeExponent (takeFraction rest).2).1⟩,
        (takeExponent (takeFraction rest).2).2) := by
  have htaken := takeDigits_map_ofDigit h.lt hrest
  obtain ⟨d, digits, rfl⟩ := List.exists_cons_of_ne_nil h.nonempty
  by_cases hd : d = 0
  · subst hd
    obtain ⟨-, rfl⟩ := List.cons.inj (h.leading rfl)
    cases negative <;> simp [takeNumeral?, minus, CodePoint.ofDigit]
  · have hlt : d < 10 := h.lt d (List.mem_cons_self ..)
    have hzero : CodePoint.ofDigit d ≠ .char '0' :=
      ofDigit_ne hlt (show (0x30 : Nat) ≠ 0x30 + d by omega)
    have hminus : CodePoint.ofDigit d ≠ .char '-' :=
      ofDigit_ne hlt (show (0x2D : Nat) ≠ 0x30 + d by omega)
    rw [List.map_cons, List.cons_append] at htaken ⊢
    cases negative <;> simp [takeNumeral?, minus, hzero, hminus, htaken]

/-- The words that the reader knows besides numbers. -/
def literalWords : List Text :=
  [text "null", text "true", text "false", text "NaN", text "Infinity", text "-Infinity"]

theorem readScalar_of_takeNumeral? (literals : Literals) {t after : Text} {numeral : Numeral}
    (hwords : ∀ word ∈ literalWords, Text.dropStart? t word = none)
    (h : takeNumeral? t = some (numeral, after)) :
    readScalar literals t = numeral.value.map fun value => (value, after) := by
  simp only [literalWords, List.forall_mem_cons, List.not_mem_nil, false_implies, implies_true,
    and_true] at hwords
  obtain ⟨hnull, htrue, hfalse, hnan, hinfinity, hminus⟩ := hwords
  have hnonFinite : takeNonFinite? t = none := by
    simp [takeNonFinite?, nonFiniteLiterals, hnan, hinfinity, hminus]
  simp only [readScalar, hnull, htrue, hfalse, hnonFinite, h]

/-- No literal begins with a digit, or with a minus sign and a digit. -/
theorem dropStart?_minus_append {d : Nat} (hd : d < 10) (negative : Bool) (rest : Text) :
    ∀ word ∈ literalWords,
      Text.dropStart? (minus negative ++ .ofDigit d :: rest) word = none := by
  have hne (c : CodePoint) (hc : c.value < 0x30 ∨ 0x39 < c.value) : CodePoint.ofDigit d ≠ c :=
    ofDigit_ne hd (by omega)
  intro word hword
  simp only [literalWords, List.mem_cons, List.not_mem_nil, or_false] at hword
  cases negative with
  | false =>
    rcases hword with rfl | rfl | rfl | rfl | rfl | rfl <;> exact if_neg (hne _ (by decide))
  | true =>
    rcases hword with rfl | rfl | rfl | rfl | rfl | rfl
    iterate 5 exact if_neg (by decide)
    exact (if_pos rfl).trans (if_neg (hne (.char 'I') (by decide)))

/-- **What is read of a number** is decided by its digits and by what follows them. -/
theorem readScalar_minus_append (literals : Literals) {whole : List Nat} (h : IsWhole whole)
    {rest : Text} (hrest : StopsDigits rest) (negative : Bool) :
    readScalar literals (minus negative ++ (whole.map .ofDigit ++ rest))
      = (Numeral.value ⟨negative, whole, (takeFraction rest).1,
          (takeExponent (takeFraction rest).2).1⟩).map fun value =>
        (value, (takeExponent (takeFraction rest).2).2) := by
  refine readScalar_of_takeNumeral? literals ?_ (takeNumeral?_minus_append h hrest negative)
  obtain ⟨d, digits, rfl⟩ := List.exists_cons_of_ne_nil h.nonempty
  exact dropStart?_minus_append (h.lt d (List.mem_cons_self ..)) negative _

/-! ## Integers -/

theorem ofInt_eq (z : Int) :
    Decimal.ofInt z = minus (decide (z < 0)) ++ (Decimal.digitsOf z.natAbs).map .ofDigit := by
  cases z with
  | ofNat n =>
    rw [Decimal.ofInt, Decimal.ofNat_eq, decide_eq_false (by simp)]
    rfl
  | negSucc n =>
    rw [Decimal.ofInt, Decimal.ofNat_eq, decide_eq_true (Int.negSucc_lt_zero n)]
    rfl

theorem signed_natAbs (z : Int) : Decimal.signed (decide (z < 0)) z.natAbs = z := by
  by_cases hz : z < 0
  · rw [decide_eq_true hz, Decimal.signed_true]
    omega
  · rw [decide_eq_false hz, Decimal.signed_false]
    omega

theorem value_digitsOf {n : Nat} (h : n < 10 ^ Decimal.digitLimit) (negative : Bool) :
    Numeral.value ⟨negative, Decimal.digitsOf n, none, none⟩
      = .ok (.int (Decimal.signed negative n)) := by
  simp only [Numeral.value, Decimal.readDigits_digitsOf h]

/-- **An integer is read back.** -/
theorem readScalar_ofInt (literals : Literals) {z : Int} (hz : z.natAbs < 10 ^ Decimal.digitLimit)
    {rest : Text} (h : EndsToken rest) :
    readScalar literals (Decimal.ofInt z ++ rest) = .ok (.int z, rest) := by
  rw [ofInt_eq, List.append_assoc, readScalar_minus_append literals (isWhole_digitsOf z.natAbs)
    h.stopsDigits, takeFraction_of_endsToken h, takeExponent_of_endsToken h, value_digitsOf hz,
    signed_natAbs]
  rfl

end Json

end DiagnosticRelay
