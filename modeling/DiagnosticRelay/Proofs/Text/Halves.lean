import DiagnosticRelay.Text.Basic

/-!
# Halves that stand together

A text may hold surrogate halves, and nothing keeps the first half of a pair from standing directly
before the second half of one.  Where a text is written in UTF-16 units, such halves cannot be told
from the one code point that they would stand for together: whoever reads the units joins
them.  `Text.joinHalves` is what a text becomes in this way, and it is the text itself exactly if no
two halves stand together (`joinHalves_eq_self_iff`).
-/

namespace DiagnosticRelay

namespace CodePoint

/-- Whether a code point is the first half of a surrogate pair. -/
def isHigh (c : CodePoint) : Bool := 0xD800 ≤ c.value && c.value < 0xDC00

/-- Whether a code point is the second half of a surrogate pair. -/
def isLow (c : CodePoint) : Bool := 0xDC00 ≤ c.value && c.value < 0xE000

/-- The code point that two halves stand for together. -/
def joined (high low : CodePoint) : CodePoint :=
  .ofValue (0x10000 + (high.value - 0xD800) * 0x400 + (low.value - 0xDC00))

theorem value_lt (c : CodePoint) : c.value < 0x110000 := by
  cases c with
  | char c =>
    have hvalid : c.toNat.isValidChar := c.valid
    rw [value_char]
    rcases hvalid with h | ⟨-, h⟩ <;> omega
  | surrogate half =>
    rw [value_surrogate]
    omega

/-- A code point is the one with its number. -/
theorem ofValue_value (c : CodePoint) : ofValue c.value = c := by
  cases c with
  | char c =>
    have hvalid : c.toNat.isValidChar := c.valid
    rw [ofValue, ofValue?, value_char, dif_pos hvalid]
    rfl
  | surrogate half =>
    have hvalid : ¬(0xD800 + half.val).isValidChar := by
      rintro (h | ⟨h, -⟩) <;> omega
    rw [ofValue, ofValue?, value_surrogate, dif_neg hvalid, dif_pos (by omega)]
    simp

/-- The number of a code point is the one that it was made from. -/
theorem value_ofValue {n : Nat} (h : n < 0x110000) : (ofValue n).value = n := by
  rw [ofValue, ofValue?]
  by_cases hvalid : n.isValidChar
  · rw [dif_pos hvalid]
    rfl
  · have hhalf : 0xD800 ≤ n ∧ n < 0xE000 := by
      rw [Nat.isValidChar] at hvalid
      omega
    rw [dif_neg hvalid, dif_pos hhalf, Option.getD_some, value_surrogate]
    exact Nat.add_sub_cancel' hhalf.1

/-- What two halves stand for is beyond the units. -/
theorem le_value_joined {high low : CodePoint} (hhigh : high.isHigh = true)
    (hlow : low.isLow = true) : 0x10000 ≤ (joined high low).value := by
  rw [isHigh, Bool.and_eq_true, decide_eq_true_eq, decide_eq_true_eq] at hhigh
  rw [isLow, Bool.and_eq_true, decide_eq_true_eq, decide_eq_true_eq] at hlow
  rw [joined, value_ofValue (by omega)]
  omega

end CodePoint

namespace Text

/-- A text with every two halves that stand together joined, from the left. -/
def joinHalves : Text → Text
  | c :: d :: rest =>
    if c.isHigh && d.isLow then .joined c d :: joinHalves rest else c :: joinHalves (d :: rest)
  | t => t

/-- The first half of a pair stands directly before the second half of one. -/
def HasPair (t : Text) : Prop :=
  ∃ before high low after, t = before ++ high :: low :: after ∧
    high.isHigh = true ∧ low.isLow = true

@[simp] theorem joinHalves_nil : joinHalves [] = [] := rfl

@[simp] theorem joinHalves_singleton (c : CodePoint) : joinHalves [c] = [c] := rfl

theorem joinHalves_pair {c d : CodePoint} (hc : c.isHigh = true) (hd : d.isLow = true)
    (rest : Text) : joinHalves (c :: d :: rest) = .joined c d :: joinHalves rest := by
  rw [joinHalves, hc, hd]
  rfl

/-- A code point that is not the first of two halves stays as it is. -/
theorem joinHalves_cons {c : CodePoint} {rest : Text}
    (h : c.isHigh = true → ∀ d, rest.head? = some d → d.isLow = false) :
    joinHalves (c :: rest) = c :: joinHalves rest := by
  cases rest with
  | nil => rfl
  | cons d rest =>
    rw [joinHalves]
    cases hc : c.isHigh with
    | false => rfl
    | true =>
      rw [h hc d rfl]
      rfl

theorem hasPair_cons_iff {c : CodePoint} {rest : Text} :
    HasPair (c :: rest) ↔
      (c.isHigh = true ∧ ∃ d, rest.head? = some d ∧ d.isLow = true) ∨ HasPair rest := by
  constructor
  · rintro ⟨before, high, low, after, h, hhigh, hlow⟩
    cases before with
    | nil =>
      obtain ⟨rfl, rfl⟩ := List.cons.inj h
      exact Or.inl ⟨hhigh, low, rfl, hlow⟩
    | cons b before =>
      exact Or.inr ⟨before, high, low, after, (List.cons.inj h).2, hhigh, hlow⟩
  · rintro (⟨hc, d, hd, hlow⟩ | ⟨before, high, low, after, rfl, hhigh, hlow⟩)
    · obtain ⟨tail, rfl⟩ := List.head?_eq_some_iff.mp hd
      exact ⟨[], c, d, tail, rfl, hc, hlow⟩
    · exact ⟨c :: before, high, low, after, rfl, hhigh, hlow⟩

theorem length_joinHalves_le (t : Text) : (joinHalves t).length ≤ t.length := by
  fun_induction joinHalves t with
  | case1 c d rest h ih =>
    simp only [List.length_cons]
    omega
  | case2 c d rest h ih =>
    simp only [List.length_cons] at ih ⊢
    omega
  | case3 t h => exact Nat.le_refl _

/-- A text with a pair gets shorter. -/
theorem length_joinHalves_lt {t : Text} (h : HasPair t) : (joinHalves t).length < t.length := by
  fun_induction joinHalves t with
  | case1 c d rest hpair ih =>
    have hle := length_joinHalves_le rest
    simp only [List.length_cons]
    omega
  | case2 c d rest hpair ih =>
    rcases hasPair_cons_iff.mp h with ⟨hc, e, he, hlow⟩ | hrest
    · obtain rfl := Option.some.inj he
      exact absurd (by rw [hc, hlow]; rfl) hpair
    · have := ih hrest
      simp only [List.length_cons] at this ⊢
      omega
  | case3 t hshort =>
    exfalso
    obtain ⟨before, high, low, after, rfl, -⟩ := h
    cases before with
    | nil => exact hshort _ _ _ rfl
    | cons b before => cases before <;> exact hshort _ _ _ rfl

/-- **Joining changes exactly the texts in which halves stand together.** -/
theorem joinHalves_eq_self_iff {t : Text} : joinHalves t = t ↔ ¬HasPair t := by
  constructor
  · intro h hpair
    have hlt := length_joinHalves_lt hpair
    rw [h] at hlt
    omega
  · intro h
    induction t with
    | nil => rfl
    | cons c rest ih =>
      rw [hasPair_cons_iff, not_or] at h
      rw [joinHalves_cons, ih h.2]
      intro hc d hd
      rw [← Bool.not_eq_true]
      exact fun hlow => h.1 ⟨hc, d, hd, hlow⟩

/-- What stands first is the same code point or one beyond the units. -/
theorem head?_joinHalves {t : Text} {c : CodePoint} (h : (joinHalves t).head? = some c) :
    t.head? = some c ∨ 0x10000 ≤ c.value := by
  fun_cases joinHalves t with
  | case1 high low rest hpair =>
    rw [Bool.and_eq_true] at hpair
    rw [joinHalves_pair hpair.1 hpair.2, List.head?_cons, Option.some.injEq] at h
    rw [← h]
    exact Or.inr (CodePoint.le_value_joined hpair.1 hpair.2)
  | case2 c d rest hpair =>
    rw [joinHalves, if_neg hpair] at h
    exact Or.inl h
  | case3 t hshort =>
    rw [joinHalves] at h
    · exact Or.inl h
    · exact hshort

/-- Joining once is enough. -/
theorem not_hasPair_joinHalves (t : Text) : ¬HasPair (joinHalves t) := by
  fun_induction joinHalves t with
  | case1 high low rest hpair ih =>
    rw [Bool.and_eq_true] at hpair
    rw [hasPair_cons_iff]
    rintro (⟨hhigh, -⟩ | hrest)
    · have hvalue := CodePoint.le_value_joined hpair.1 hpair.2
      simp only [CodePoint.isHigh, Bool.and_eq_true, decide_eq_true_eq] at hhigh
      omega
    · exact ih hrest
  | case2 c d rest hpair ih =>
    rw [hasPair_cons_iff]
    rintro (⟨hhigh, e, he, hlow⟩ | hrest)
    · rcases head?_joinHalves he with hsame | hlarge
      · obtain rfl := Option.some.inj hsame
        exact hpair (by rw [hhigh, hlow]; rfl)
      · simp only [CodePoint.isLow, Bool.and_eq_true, decide_eq_true_eq] at hlow
        omega
    · exact ih hrest
  | case3 t hshort =>
    rintro ⟨before, high, low, after, rfl, -⟩
    cases before with
    | nil => exact hshort _ _ _ rfl
    | cons b before => cases before <;> exact hshort _ _ _ rfl

/-- Joining leaves code points as they are or puts new ones in that are beyond the units. -/
theorem mem_joinHalves {t : Text} {c : CodePoint} (h : c ∈ joinHalves t) :
    c ∈ t ∨ 0x10000 ≤ c.value := by
  fun_induction joinHalves t with
  | case1 high low rest hpair ih =>
    rw [Bool.and_eq_true] at hpair
    rcases List.mem_cons.mp h with heq | h
    · rw [heq]
      exact Or.inr (CodePoint.le_value_joined hpair.1 hpair.2)
    · exact (ih h).imp_left fun h => List.mem_cons_of_mem _ (List.mem_cons_of_mem _ h)
  | case2 c d rest hpair ih =>
    rcases List.mem_cons.mp h with rfl | h
    · exact Or.inl (List.mem_cons_self ..)
    · exact (ih h).imp_left (List.mem_cons_of_mem _)
  | case3 t hshort => exact Or.inl h

/-- A text without code points beyond the units comes from itself only. -/
theorem eq_of_joinHalves_eq {t joined : Text} (h : joinHalves t = joined)
    (hunits : ∀ c ∈ joined, c.value < 0x10000) : t = joined := by
  fun_induction joinHalves t generalizing joined with
  | case1 high low rest hpair ih =>
    rw [Bool.and_eq_true] at hpair
    subst h
    have hlt := hunits _ (List.mem_cons_self ..)
    have hle := CodePoint.le_value_joined hpair.1 hpair.2
    omega
  | case2 c d rest hpair ih =>
    subst h
    exact congrArg (c :: ·) (ih rfl fun e he => hunits e (List.mem_cons_of_mem _ he))
  | case3 t hshort => exact h

/-- No pair reaches across a code point that is no half. -/
theorem joinHalves_append_cons {mark : CodePoint} (hhigh : mark.isHigh = false)
    (hlow : mark.isLow = false) (first second : Text) :
    joinHalves (first ++ mark :: second) = joinHalves first ++ mark :: joinHalves second := by
  have hmark : joinHalves (mark :: second) = mark :: joinHalves second := by
    apply joinHalves_cons
    intro h
    rw [hhigh] at h
    cases h
  fun_induction joinHalves first with
  | case1 c d rest h ih =>
    rw [Bool.and_eq_true] at h
    rw [List.cons_append, List.cons_append, joinHalves_pair h.1 h.2, ih, List.cons_append]
  | case2 c d rest h ih =>
    rw [List.cons_append, joinHalves_cons, ih, List.cons_append]
    rintro hc e he
    rw [List.cons_append, List.head?_cons, Option.some.injEq] at he
    rw [he, hc, Bool.true_and, Bool.not_eq_true] at h
    exact h
  | case3 t hshort =>
    cases t with
    | nil => exact hmark
    | cons c rest =>
      cases rest with
      | nil =>
        rw [List.cons_append, List.nil_append, joinHalves_cons, hmark]
        · rfl
        · intro _ d hd
          rw [List.head?_cons, Option.some.injEq] at hd
          rw [← hd, hlow]
      | cons d rest => exact absurd rfl (hshort c d rest)

end Text

end DiagnosticRelay
