import DiagnosticRelay.Proofs.Fault.Overflow
import Mathlib.Data.List.Forall2

/-!
# Computations along a list

A list is worked through from left to right, and the first item that fails decides.  What has
succeeded is the list of the results, one for each item in its place (`mapM_eq_ok_iff`), and
what has failed is the fault of one of the items (`exists_of_mapM_eq_error`).

Some loops keep what they make of the items instead of listing the results first.  As long as
only the items can fail, that is the same: `foldlM_eq_mapM` takes such a loop apart into the
computations and a fold that cannot fail.
-/

namespace DiagnosticRelay

variable {α β σ ε : Type} {f : α → Except ε β} {items : List α}

/-- **A traversal succeeds with one result for each item.** -/
theorem mapM_eq_ok_iff {results : List β} :
    items.mapM f = .ok results ↔ List.Forall₂ (fun item b => f item = .ok b) items results := by
  induction items generalizing results with
  | nil =>
    rw [List.mapM_nil, List.forall₂_nil_left_iff]
    exact ⟨fun h => (Except.ok.inj h).symm, fun h => h ▸ rfl⟩
  | cons item items ih =>
    rw [List.mapM_cons, bind_eq_ok, List.forall₂_cons_left_iff]
    refine exists_congr fun b => ?_
    rw [bind_eq_ok]
    constructor
    · rintro ⟨hb, rest, hrest, heq⟩
      exact ⟨rest, hb, ih.mp hrest, (Except.ok.inj heq).symm⟩
    · rintro ⟨rest, hb, hrest, rfl⟩
      exact ⟨hb, rest, ih.mpr hrest, rfl⟩

theorem mapM_eq_ok_map {g : α → β} (h : ∀ item ∈ items, f item = .ok (g item)) :
    items.mapM f = .ok (items.map g) := by
  rw [mapM_eq_ok_iff, List.forall₂_map_right_iff, List.forall₂_same]
  exact h

theorem exists_mapM_iff :
    (∃ results, items.mapM f = .ok results) ↔ ∀ item ∈ items, ∃ b, f item = .ok b := by
  simp only [mapM_eq_ok_iff]
  induction items with
  | nil => exact iff_of_true ⟨[], .nil⟩ fun item hitem => absurd hitem List.not_mem_nil
  | cons item items ih =>
    rw [List.forall_mem_cons, ← ih]
    constructor
    · rintro ⟨_, _ | ⟨hitem, hrest⟩⟩
      exact ⟨⟨_, hitem⟩, _, hrest⟩
    · rintro ⟨⟨b, hitem⟩, rest, hrest⟩
      exact ⟨b :: rest, .cons hitem hrest⟩

/-- Every result is that of an item. -/
theorem exists_of_mem_mapM {results : List β} (h : items.mapM f = .ok results) {b : β}
    (hb : b ∈ results) : ∃ item ∈ items, f item = .ok b := by
  rw [mapM_eq_ok_iff] at h
  induction h with
  | nil => cases hb
  | cons hitem _ ih =>
    rcases List.mem_cons.mp hb with rfl | hb
    · exact ⟨_, List.mem_cons_self .., hitem⟩
    · obtain ⟨other, hother, heq⟩ := ih hb
      exact ⟨other, List.mem_cons_of_mem _ hother, heq⟩

theorem exists_of_mapM_eq_error {fault : ε} (h : items.mapM f = .error fault) :
    ∃ item ∈ items, f item = .error fault := by
  induction items with
  | nil => cases h
  | cons item items ih =>
    rw [List.mapM_cons, bind_eq_error] at h
    obtain hitem | ⟨b, -, h⟩ := h
    · exact ⟨item, List.mem_cons_self .., hitem⟩
    · obtain hrest | ⟨rest, -, h⟩ := bind_eq_error.mp h
      · obtain ⟨other, hother, hfails⟩ := ih hrest
        exact ⟨other, List.mem_cons_of_mem _ hother, hfails⟩
      · cases h

/-- **A loop in which only the items can fail** makes its results first and then keeps them. -/
theorem foldlM_eq_mapM (keep : σ → β → σ) (start : σ) :
    items.foldlM (fun kept item => (f item).map (keep kept)) start
      = (items.mapM f).map (List.foldl keep start) := by
  induction items generalizing start with
  | nil => rfl
  | cons item items ih =>
    rw [List.foldlM_cons, List.mapM_cons]
    cases f item with
    | error fault => rfl
    | ok b =>
      show items.foldlM _ (keep start b) = _
      rw [ih]
      cases items.mapM f with
      | error fault => rfl
      | ok rest => rfl

end DiagnosticRelay
