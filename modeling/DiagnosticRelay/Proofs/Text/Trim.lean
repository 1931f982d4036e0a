import DiagnosticRelay.Text.Blank
import Mathlib.Data.List.DropRight

/-!
# Trimmed texts

Trimming drops the blanks at the head of a text and then those at its end.  What is left has no
blank at either end (`isTrimmed_trim`), and a text of this kind is left alone (`trim_of_isTrimmed`).
A word at the head of a text is never trimmed away (`exists_trim_append`).
-/

namespace DiagnosticRelay

namespace Text

/-- A text with no blank at either end. -/
structure IsTrimmed (t : Text) : Prop where
  head : ∀ c, t.head? = some c → c.isBlank = false
  last : ∀ c, t.getLast? = some c → c.isBlank = false

theorem trim_of_isTrimmed {t : Text} (h : t.IsTrimmed) : trim t = t := by
  have hhead : t.dropWhile CodePoint.isBlank = t := by
    rw [List.dropWhile_eq_self_iff]
    intro hlength
    rw [h.head t[0] (List.head?_eq_getElem? .. ▸ List.getElem?_eq_getElem hlength)]
    exact Bool.false_ne_true
  have hlast : t.reverse.dropWhile CodePoint.isBlank = t.reverse := by
    rw [List.dropWhile_eq_self_iff]
    intro hlength
    rw [h.last t.reverse[0] (by
      rw [← List.head?_reverse, List.head?_eq_getElem?, List.getElem?_eq_getElem hlength])]
    exact Bool.false_ne_true
  rw [trim, trimBy, hhead, hlast, List.reverse_reverse]

/-- What is left of a text when it is trimmed. -/
theorem isTrimmed_trim (t : Text) : (trim t).IsTrimmed := by
  refine ⟨fun c hc => ?_, fun c hc => ?_⟩
  · -- the head of what is left was there before its end was trimmed
    obtain ⟨blanks, hkept⟩ : trim t <+: t.dropWhile CodePoint.isBlank := List.rdropWhile_prefix ..
    have hhead := List.head?_dropWhile_not CodePoint.isBlank t
    rw [← hkept, List.head?_append, hc] at hhead
    exact hhead
  · have hlast := List.head?_dropWhile_not CodePoint.isBlank (t.dropWhile CodePoint.isBlank).reverse
    rw [trim, trimBy, List.getLast?_reverse] at hc
    rw [hc] at hlast
    exact hlast

theorem dropWhile_isBlank_of_ink {t : Text} (h : ∀ c ∈ t, c.isBlank = false) :
    t.dropWhile CodePoint.isBlank = t := by
  cases t with
  | nil => rfl
  | cons c t => rw [List.dropWhile_cons_of_neg (by simp [h c (List.mem_cons_self ..)])]

/-- Trimming leaves a word at the head of a text. -/
theorem exists_trim_append {word : Text} (hne : word ≠ []) (h : ∀ c ∈ word, c.isBlank = false)
    (rest : Text) : ∃ more, trim (word ++ rest) = word ++ more := by
  have hstart : (word ++ rest).dropWhile CodePoint.isBlank = word ++ rest := by
    obtain ⟨c, word, rfl⟩ := List.exists_cons_of_ne_nil hne
    rw [List.cons_append, List.dropWhile_cons_of_neg (by simp [h c (List.mem_cons_self ..)])]
  have hend : word.reverse.dropWhile CodePoint.isBlank = word.reverse :=
    dropWhile_isBlank_of_ink fun c hc => h c (List.mem_reverse.mp hc)
  rw [trim, trimBy, hstart, List.reverse_append, List.dropWhile_append]
  split
  · exact ⟨[], by rw [hend, List.reverse_reverse, List.append_nil]⟩
  · exact ⟨_, by rw [List.reverse_append, List.reverse_reverse]⟩

end Text

end DiagnosticRelay
