import DiagnosticRelay.Proofs.Path.NormalForm
import DiagnosticRelay.Proofs.Text.Halves

/-!
# Normal forms with halves joined

Joining surrogate halves does not take a path out of its normal form.  The slash is no half, so
halves are joined inside the components only, and a component remains one: it does not become empty,
no slash gets into it, and `.` and `..` hold no code point that joining could have made.
-/

namespace DiagnosticRelay

namespace Path

namespace Posix

open Text (joinHalves)

theorem joinHalves_append_slash (first second : Text) :
    joinHalves (first ++ slash :: second) = joinHalves first ++ slash :: joinHalves second :=
  Text.joinHalves_append_cons (by decide) (by decide) first second

theorem joinHalves_join (parts : List Text) :
    joinHalves (Text.join [slash] parts) = Text.join [slash] (parts.map joinHalves) := by
  induction parts with
  | nil => rfl
  | cons part rest ih =>
    cases rest with
    | nil => rfl
    | cons next rest =>
      rw [Text.join, List.append_assoc, List.singleton_append, joinHalves_append_slash, ih]
      simp only [List.map_cons, Text.join, List.append_assoc, List.singleton_append]

theorem isComponent_joinHalves {part : Text} (h : IsComponent part) :
    IsComponent (joinHalves part) where
  nonempty heq := h.nonempty (Text.eq_of_joinHalves_eq heq (by decide))
  ne_here heq := h.ne_here (Text.eq_of_joinHalves_eq heq (by decide))
  ne_above heq := h.ne_above (Text.eq_of_joinHalves_eq heq (by decide))
  slash_not_mem hmem :=
    (Text.mem_joinHalves hmem).elim h.slash_not_mem (absurd · (by decide))

/-- **A normal form with halves joined is a normal form.** -/
theorem isNormal_joinHalves {path : Text} (h : IsNormal path) : IsNormal (joinHalves path) := by
  obtain ⟨root, parts, rfl, hroot, hparts⟩ := isNormal_iff.mp h
  refine isNormal_iff.mpr ⟨root, parts.map joinHalves, ?_, hroot, ?_⟩
  · rw [← joinHalves_join]
    rcases hroot with rfl | rfl
    · exact joinHalves_append_slash [] _
    · exact joinHalves_append_slash [slash] _
  · intro part hpart
    obtain ⟨plain, hplain, rfl⟩ := List.mem_map.mp hpart
    exact isComponent_joinHalves (hparts plain hplain)

end Posix

end Path

end DiagnosticRelay
