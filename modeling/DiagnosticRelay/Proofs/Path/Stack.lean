import DiagnosticRelay.Path.Posix

/-!
# The stack of a walk

A path is normalised on a stack: a component is put on top, and `..` takes the top away.  Where
there is no root, a `..` that finds nothing to take away stays, and so do further ones above it.

What is left is settled: read from the bottom to the top and walked through once more, it
leaves the same stack (`isSettled_collapse`).  This is an invariant of single steps
(`isSettled_push`), and the step that takes the top away keeps it because the components below
the top left what is below the top.  Nothing is on the stack that was not walked through
(`mem_of_mem_collapse`), and without `..` everything is (`foldl_push_of_not_mem`).

Components that never lead up more often than down do not reach what was on the stack before them
(`foldl_push_append`).
-/

namespace DiagnosticRelay

namespace Path

namespace Posix

theorem mem_push {rooted : Bool} {stack : List Text} {part entry : Text}
    (h : entry ∈ push rooted stack part) : entry ∈ stack ∨ entry = part := by
  by_cases habove : part = above
  · rw [push.eq_def, if_pos habove] at h
    cases stack with
    | nil =>
      cases rooted with
      | true => cases h
      | false => exact Or.inr ((List.mem_singleton.mp h).trans habove.symm)
    | cons top below =>
      simp only at h
      split at h
      · exact (List.mem_cons.mp h).symm.imp_right fun h => h.trans habove.symm
      · exact Or.inl (List.mem_cons_of_mem _ h)
  · rw [push.eq_def, if_neg habove] at h
    exact (List.mem_cons.mp h).symm

theorem mem_of_mem_foldl_push {rooted : Bool} {stack parts : List Text} {entry : Text}
    (h : entry ∈ parts.foldl (push rooted) stack) : entry ∈ stack ∨ entry ∈ parts := by
  induction parts generalizing stack with
  | nil => exact Or.inl h
  | cons part rest ih =>
    rw [List.mem_cons]
    rcases ih h with h | h
    · exact (mem_push h).imp_right Or.inl
    · exact Or.inr (Or.inr h)

/-- The components on a stack come from those that were walked through. -/
theorem mem_of_mem_collapse {rooted : Bool} {parts : List Text} {entry : Text}
    (h : entry ∈ collapse rooted parts) : entry ∈ parts :=
  (mem_of_mem_foldl_push h).resolve_left List.not_mem_nil

/-- Components without `..` are put on the stack as they are. -/
theorem foldl_push_of_not_mem (rooted : Bool) (stack : List Text) {parts : List Text}
    (h : above ∉ parts) : parts.foldl (push rooted) stack = parts.reverse ++ stack := by
  induction parts generalizing stack with
  | nil => rfl
  | cons part rest ih =>
    rw [List.mem_cons, not_or] at h
    have hpush : push rooted stack part = part :: stack := by
      rw [push.eq_def, if_neg (Ne.symm h.1)]
    rw [List.foldl_cons, hpush, ih _ h.2, List.reverse_cons, List.append_assoc,
      List.singleton_append]

/-- **Components that do not climb leave what is below them on the stack.**  They do not climb if in
no beginning of them there are more `..` than can be taken away. -/
theorem foldl_push_append (rooted : Bool) {stack parts : List Text} (below : List Text)
    (hstack : above ∉ stack) (h : ∀ front, front <+: parts →
      front.count above ≤ stack.length + front.countP (· != above)) :
    parts.foldl (push rooted) (stack ++ below) = parts.foldl (push false) stack ++ below := by
  induction parts generalizing stack with
  | nil => rfl
  | cons part rest ih =>
    have hrest (front : List Text) (hfront : front <+: rest) :=
      h (part :: front) (List.cons_prefix_cons.mpr ⟨rfl, hfront⟩)
    rw [List.foldl_cons, List.foldl_cons]
    by_cases hpart : part = above
    · subst hpart
      cases stack with
      | nil => exact absurd (hrest [] (List.nil_prefix)) (by decide)
      | cons top stack =>
        -- the top is what this `..` takes away, with and without the rest below it
        obtain ⟨htop, hstack⟩ := List.ne_and_not_mem_of_not_mem_cons hstack
        have hpush {rooted : Bool} (others : List Text) :
            push rooted (top :: others) above = others := by
          simp only [push, if_true, if_neg (Ne.symm htop)]
        rw [List.cons_append, hpush, hpush]
        refine ih hstack fun front hfront => ?_
        have hle := hrest front hfront
        rw [List.count_cons_self, List.countP_cons_of_neg (by simp), List.length_cons] at hle
        omega
    · have hpush {rooted : Bool} (others : List Text) :
          push rooted others part = part :: others := by
        rw [push.eq_def, if_neg hpart]
      rw [hpush, hpush, ← List.cons_append]
      refine ih (List.not_mem_cons_of_ne_of_not_mem (Ne.symm hpart) hstack) fun front hfront => ?_
      have hle := hrest front hfront
      rw [List.count_cons_of_ne hpart, List.countP_cons_of_pos (by simpa using hpart)] at hle
      rw [List.length_cons]
      omega

/-- A stack that its own components leave again. -/
def IsSettled (rooted : Bool) (stack : List Text) : Prop :=
  collapse rooted stack.reverse = stack

theorem collapse_reverse_cons (rooted : Bool) (part : Text) (stack : List Text) :
    collapse rooted (part :: stack).reverse = push rooted (collapse rooted stack.reverse) part := by
  rw [collapse, List.reverse_cons, List.foldl_append]
  rfl

theorem isSettled_cons {rooted : Bool} {stack : List Text} (h : IsSettled rooted stack)
    {part : Text} (hpush : push rooted stack part = part :: stack) :
    IsSettled rooted (part :: stack) := by
  rw [IsSettled, collapse_reverse_cons, h, hpush]

theorem isSettled_push {rooted : Bool} {stack : List Text} (h : IsSettled rooted stack)
    (part : Text) : IsSettled rooted (push rooted stack part) := by
  by_cases habove : part = above
  · subst habove
    cases stack with
    | nil => cases rooted <;> rfl
    | cons top below =>
      by_cases htop : top = above
      · have hpush : push rooted (top :: below) above = above :: top :: below := by
          simp only [push, if_true, if_pos htop]
        rw [hpush]
        exact isSettled_cons h hpush
      · -- what is below the top was left by its own components before the top was put on it
        have hpush : push rooted (top :: below) above = below := by
          simp only [push, if_true, if_neg htop]
        rw [IsSettled, collapse_reverse_cons, push.eq_def, if_neg htop] at h
        rw [hpush]
        exact (List.cons.inj h).2
  · have hpush : push rooted stack part = part :: stack := by
      rw [push.eq_def, if_neg habove]
    rw [hpush]
    exact isSettled_cons h hpush

theorem isSettled_foldl_push {rooted : Bool} {stack : List Text} (h : IsSettled rooted stack)
    (parts : List Text) : IsSettled rooted (parts.foldl (push rooted) stack) := by
  induction parts generalizing stack with
  | nil => exact h
  | cons part rest ih => exact ih (isSettled_push h part)

/-- **Walking through what a walk has left changes nothing.** -/
theorem isSettled_collapse (rooted : Bool) (parts : List Text) :
    IsSettled rooted (collapse rooted parts) :=
  isSettled_foldl_push (show IsSettled rooted [] from rfl) parts

end Posix

end Path

end DiagnosticRelay
