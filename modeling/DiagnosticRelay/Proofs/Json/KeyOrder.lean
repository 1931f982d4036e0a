import DiagnosticRelay.Json.Writer
import DiagnosticRelay.Proofs.Text.Halves
import DiagnosticRelay.Proofs.Value.Reordering
import Mathlib.Data.List.Lex

/-!
# Sorted keys are a canonical form

A structured code is written with the members of its objects sorted by their keys.  That this
makes the text independent of the order in which the members came is not a matter of course: a
sort only rearranges, and where two members compare as equal their order remains as it was.  Keys
are compared by the numbers of their code points, and this order is a linear one (`Text.le_iff`), so
two members compare as equal only if they have the same key; and in a distinct value no two have.

`sortKeys_eq_of_reorders` is the outcome.  It is proved along the description of a
reordering: at an object the members are rearranged, which the sort undoes, and their values are
reordered, which is undone one level down.
-/

namespace DiagnosticRelay

/-! ## The order of texts -/

theorem CodePoint.value_injective : Function.Injective CodePoint.value := by
  intro c d h
  rw [← CodePoint.ofValue_value c, h, CodePoint.ofValue_value]

namespace Text

/-- Texts are compared like the lists of their numbers. -/
theorem le_iff (s t : Text) : le s t = true ↔ s.map CodePoint.value ≤ t.map CodePoint.value := by
  rw [← not_lt, le, bne_iff_ne]
  induction s generalizing t with
  | nil => cases t <;> simp [compare]
  | cons c s ih =>
    cases t with
    | nil => simp [compare]
    | cons d t =>
      rw [compare, List.map_cons, List.map_cons, List.cons_lt_cons_iff]
      rcases lt_trichotomy c.value d.value with hlt | heq | hgt
      · simp [compare_lt_iff_lt.mpr hlt, hlt.not_gt, hlt.ne']
      · simpa [heq] using ih t
      · simp [compare_gt_iff_gt.mpr hgt, hgt]

theorem le_or_le (s t : Text) : (le s t || le t s) = true := by
  rw [Bool.or_eq_true, le_iff, le_iff]
  exact le_total _ _

theorem le_trans_of_le {s t u : Text} (hst : le s t = true) (htu : le t u = true) :
    le s u = true := by
  rw [le_iff] at hst htu ⊢
  exact hst.trans htu

theorem eq_of_le_of_le {s t : Text} (hst : le s t = true) (hts : le t s = true) : s = t := by
  rw [le_iff] at hst hts
  exact List.map_injective_iff.mpr CodePoint.value_injective (le_antisymm hst hts)

end Text

/-! ## Sorted members -/

namespace Json

open Value (AreDistinct AreDistinctMembers Reorders ReordersItems ReordersMembers)

/-- Members with different keys are sorted into one order, whatever order they are in. -/
theorem mergeSort_of_perm {members others : Members} (hperm : members.Perm others)
    (h : members.keys.Nodup) :
    (members.mergeSort fun a b => Text.le a.1 b.1)
      = others.mergeSort fun a b => Text.le a.1 b.1 := by
  have hsorted (members : Members) :
      (members.mergeSort fun a b => Text.le a.1 b.1).Pairwise
        fun a b => Text.le a.1 b.1 = true := by
    refine List.pairwise_mergeSort ?_ ?_ members
    · exact fun a b c => Text.le_trans_of_le
    · exact fun a b => Text.le_or_le a.1 b.1
  refine List.Perm.eq_of_pairwise ?_ (hsorted members) (hsorted others)
    ((List.mergeSort_perm members _).trans (hperm.trans (List.mergeSort_perm others _).symm))
  intro a b ha hb hab hba
  -- members that compare as equal have one key, and so they are one member
  have hmem : b ∈ members := hperm.mem_iff.mpr (List.mem_mergeSort.mp hb)
  exact List.inj_on_of_nodup_map h (List.mem_mergeSort.mp ha) hmem (Text.eq_of_le_of_le hab hba)

theorem sortKeysMembers_eq_map (members : Members) :
    sortKeysMembers members = members.map fun member => (member.1, sortKeys member.2) := by
  induction members with
  | nil => rfl
  | cons member members ih => rw [sortKeysMembers, ih, List.map_cons]

theorem keys_sortKeysMembers (members : Members) :
    Members.keys (sortKeysMembers members) = members.keys := by
  rw [sortKeysMembers_eq_map, Members.keys, List.map_map]
  rfl

mutual

/-- **A value with its keys sorted does not depend on the order of its members.** -/
theorem sortKeys_eq_of_reorders {value other : Value} (h : Reorders value other)
    (hdistinct : value.IsDistinct) : sortKeys value = sortKeys other := by
  cases h with
  | same => rfl
  | list hitems =>
    rw [sortKeys, sortKeys, sortKeysItems_eq_of_reorders hitems hdistinct]
  | object hperm harranged =>
    obtain ⟨hnodup, -⟩ := Value.areDistinctMembers_iff.mp hdistinct
    rw [sortKeys, sortKeys, ← sortKeysMembers_eq_of_reorders harranged
      (Value.areDistinctMembers_of_perm hperm hdistinct)]
    refine congrArg Value.object (mergeSort_of_perm ?_ ?_)
    · rw [sortKeysMembers_eq_map, sortKeysMembers_eq_map]
      exact hperm.map _
    · rwa [keys_sortKeysMembers]

theorem sortKeysItems_eq_of_reorders {items others : List Value} (h : ReordersItems items others)
    (hdistinct : AreDistinct items) : sortKeysItems items = sortKeysItems others := by
  cases h with
  | nil => rfl
  | cons hitem hitems =>
    rw [sortKeysItems, sortKeysItems, sortKeys_eq_of_reorders hitem hdistinct.1,
      sortKeysItems_eq_of_reorders hitems hdistinct.2]

theorem sortKeysMembers_eq_of_reorders {members others : Members}
    (h : ReordersMembers members others) (hdistinct : AreDistinctMembers members) :
    sortKeysMembers members = sortKeysMembers others := by
  cases h with
  | nil => rfl
  | cons key hvalue hmembers =>
    rw [sortKeysMembers, sortKeysMembers, sortKeys_eq_of_reorders hvalue hdistinct.2.1,
      sortKeysMembers_eq_of_reorders hmembers hdistinct.2.2]

end

end Json

end DiagnosticRelay
