import DiagnosticRelay.Text.Basic

/-!
# Pieces of a text

Cutting a text at a separator and putting texts together with a separator between them are the
operations that the library has for lists of any kind: `splitOn_eq` and `join_eq` say so.  The
laws that relate the two are therefore those of lists, and are stated here for texts.

Cutting off a given beginning undoes putting it there (`dropStart?_eq_some_iff`).
-/

namespace DiagnosticRelay

namespace Text

theorem dropStart?_eq_some_iff {t start rest : Text} :
    dropStart? t start = some rest ↔ t = start ++ rest := by
  induction start generalizing t with
  | nil => simp [dropStart?]
  | cons d start ih =>
    cases t with
    | nil => simp [dropStart?]
    | cons c t =>
      rw [dropStart?]
      split
      · next hc => rw [ih, hc, List.cons_append, List.cons.injEq, and_iff_right rfl]
      · next hc => simp [hc]

variable {separator : CodePoint}

theorem splitOn_eq (separator : CodePoint) (t : Text) :
    splitOn separator t = List.splitOn separator t := by
  induction t with
  | nil => rfl
  | cons c rest ih =>
    rw [splitOn, List.splitOn_cons_eq_if_modifyHead, ih]
    by_cases hc : c = separator
    · rw [if_pos hc, if_pos (beq_iff_eq.mpr hc)]
    · rw [if_neg hc, if_neg (by rwa [beq_iff_eq])]
      obtain ⟨piece, pieces, hpieces⟩ :=
        List.exists_cons_of_ne_nil (List.splitOn_ne_nil separator rest)
      rw [hpieces]
      rfl

theorem join_eq (separator : Text) (pieces : List Text) :
    join separator pieces = separator.intercalate pieces := by
  induction pieces with
  | nil => rfl
  | cons piece rest ih =>
    cases rest with
    | nil => rw [join_singleton, List.intercalate_singleton]
    | cons next pieces => rw [join, ih, List.intercalate_cons_cons]

theorem splitOn_ne_nil (separator : CodePoint) (t : Text) : splitOn separator t ≠ [] := by
  rw [splitOn_eq]
  exact List.splitOn_ne_nil separator t

/-- A separator at the front leaves an empty piece before it. -/
@[simp] theorem splitOn_cons_self (separator : CodePoint) (t : Text) :
    splitOn separator (separator :: t) = [] :: splitOn separator t := by
  rw [splitOn, if_pos rfl]

theorem splitOn_append_cons (separator : CodePoint) (s t : Text) :
    splitOn separator (s ++ separator :: t) = splitOn separator s ++ splitOn separator t := by
  simp only [splitOn_eq]
  exact List.splitOn_append_cons_self s t

/-- Pieces without the separator are found again in the text that is put together from them. -/
theorem splitOn_join {pieces : List Text} (hne : pieces ≠ [])
    (h : ∀ piece ∈ pieces, separator ∉ piece) :
    splitOn separator (join [separator] pieces) = pieces := by
  rw [splitOn_eq, join_eq]
  exact List.splitOn_intercalate separator h hne

theorem join_splitOn (separator : CodePoint) (t : Text) :
    join [separator] (splitOn separator t) = t := by
  rw [splitOn_eq, join_eq]
  exact List.intercalate_splitOn separator

/-- No piece holds the separator. -/
theorem not_mem_of_mem_splitOn {t piece : Text} (h : piece ∈ splitOn separator t) :
    separator ∉ piece := by
  induction t generalizing piece with
  | nil =>
    rw [List.mem_singleton.mp h]
    exact List.not_mem_nil
  | cons c rest ih =>
    rw [splitOn] at h
    split at h
    · rcases List.mem_cons.mp h with rfl | h
      · exact List.not_mem_nil
      · exact ih h
    · next hc =>
      split at h
      · next hnil => exact absurd hnil (splitOn_ne_nil separator rest)
      · next first pieces hpieces =>
        rcases List.mem_cons.mp h with rfl | h
        · rw [List.mem_cons, not_or]
          exact ⟨Ne.symm hc, ih (by rw [hpieces]; exact List.mem_cons_self ..)⟩
        · exact ih (by rw [hpieces]; exact List.mem_cons_of_mem _ h)

/-- A piece holds only what the text holds. -/
theorem mem_of_mem_splitOn {separator c : CodePoint} {t piece : Text}
    (h : piece ∈ splitOn separator t) (hc : c ∈ piece) : c ∈ t := by
  induction t generalizing piece with
  | nil =>
    rw [List.mem_singleton.mp h] at hc
    cases hc
  | cons d rest ih =>
    rw [splitOn] at h
    split at h
    · rcases List.mem_cons.mp h with rfl | h
      · cases hc
      · exact List.mem_cons_of_mem _ (ih h hc)
    · split at h
      · next hnil => exact absurd hnil (splitOn_ne_nil separator rest)
      · next first pieces hpieces =>
        rcases List.mem_cons.mp h with rfl | h
        · rw [List.mem_cons] at hc ⊢
          exact hc.imp_right (ih (by rw [hpieces]; exact List.mem_cons_self ..))
        · exact List.mem_cons_of_mem _ (ih (by rw [hpieces]; exact List.mem_cons_of_mem _ h) hc)

end Text

end DiagnosticRelay
