import DiagnosticRelay.Proofs.Collection.Publication
import DiagnosticRelay.Proofs.Text.Halves

/-!
# Shown diagnostics with their halves joined

JSON in ASCII writes code points beyond U+FFFF in UTF-16 units.  Two halves of a surrogate pair that
stand together by accident are written in the same way, so that who reads the document finds the
code point of the pair in their place (`Grouped.joined`).

For a message this is a small loss.  For the files it may be a large one: two files can become one,
and in an object the list of the later one then takes the place of the earlier one
(`Grouped.merge`).  What is left is said by `mem_merge_iff`; in particular the errors that are left
are those of files that no later file becomes equal to (`hasError_merge_joined_iff`).
-/

namespace DiagnosticRelay

open Text (joinHalves)

namespace HostDiagnostic

/-- A diagnostic with the halves in its texts joined. -/
def joined (diagnostic : HostDiagnostic) : HostDiagnostic where
  range := diagnostic.range
  message := joinHalves diagnostic.message
  severity := diagnostic.severity
  code := diagnostic.code.map joinHalves
  source := diagnostic.source.map joinHalves

/-- Some text of a diagnostic has the first half of a pair directly before a second half. -/
def HasPair (diagnostic : HostDiagnostic) : Prop :=
  Text.HasPair diagnostic.message ∨ (∃ code, diagnostic.code = some code ∧ Text.HasPair code) ∨
    ∃ source, diagnostic.source = some source ∧ Text.HasPair source

theorem map_joinHalves_eq_iff {label : Option Text} :
    label.map joinHalves = label ↔ ¬∃ t, label = some t ∧ Text.HasPair t := by
  cases label with
  | none => simp
  | some t => simp [Text.joinHalves_eq_self_iff]

theorem joined_eq_self_iff {diagnostic : HostDiagnostic} :
    diagnostic.joined = diagnostic ↔ ¬diagnostic.HasPair := by
  obtain ⟨range, message, severity, code, source⟩ := diagnostic
  simp only [joined, HasPair, mk.injEq, true_and, not_or, Text.joinHalves_eq_self_iff,
    map_joinHalves_eq_iff]

/-- Joining once is enough. -/
theorem not_hasPair_joined (diagnostic : HostDiagnostic) : ¬diagnostic.joined.HasPair := by
  have hlabel (label : Option Text) : ¬∃ t, label.map joinHalves = some t ∧ Text.HasPair t := by
    rintro ⟨t, ht, hpair⟩
    obtain ⟨held, -, rfl⟩ := Option.map_eq_some_iff.mp ht
    exact Text.not_hasPair_joinHalves held hpair
  rintro (hpair | hpair | hpair)
  · exact Text.not_hasPair_joinHalves _ hpair
  · exact hlabel _ hpair
  · exact hlabel _ hpair

end HostDiagnostic

namespace Grouped

/-- The lists by file with the halves in all texts joined. -/
def joined (entries : Grouped) : Grouped :=
  entries.map fun entry => (joinHalves entry.1, entry.2.map HostDiagnostic.joined)

/-- Some text has the first half of a pair directly before a second half. -/
def HasPair (entries : Grouped) : Prop :=
  ∃ entry ∈ entries, Text.HasPair entry.1 ∨ ∃ diagnostic ∈ entry.2, diagnostic.HasPair

/-- Some diagnostic is an error. -/
def HasError (entries : Grouped) : Prop :=
  ∃ entry ∈ entries, ∃ diagnostic ∈ entry.2, diagnostic.severity = .error

/-- Some error is in the list of a file that no later file becomes equal to when halves are
joined. -/
def HasLastingError (entries : Grouped) : Prop :=
  ∃ before entry after, entries = before ++ entry :: after ∧
    (∀ later ∈ after, joinHalves later.1 ≠ joinHalves entry.1) ∧
    ∃ diagnostic ∈ entry.2, diagnostic.severity = .error

/-- The lists by file, where of two lists for one file the later stands in the place of the
earlier. -/
def merge (entries : Grouped) : Grouped :=
  entries.foldl (fun merged entry => Collection.place merged entry.1 entry.2) []

/-! ### Merging -/

theorem mem_foldl_place_iff {entries merged : Grouped} (h : (merged.map Prod.fst).Nodup)
    {entry : Text × List HostDiagnostic} :
    entry ∈ entries.foldl (fun merged entry => Collection.place merged entry.1 entry.2) merged
      ↔ entry ∈ merged ∧ entry.1 ∉ entries.map Prod.fst ∨
        ∃ before after, entries = before ++ entry :: after ∧ entry.1 ∉ after.map Prod.fst := by
  induction entries generalizing merged with
  | nil => simp
  | cons first rest ih =>
    rw [List.foldl_cons, ih (Collection.nodup_place h ..), Collection.mem_place_iff h,
      List.map_cons, List.mem_cons, not_or]
    constructor
    · rintro (⟨rfl | ⟨hmem, hne⟩, hrest⟩ | ⟨before, after, rfl, hafter⟩)
      · exact Or.inr ⟨[], rest, rfl, hrest⟩
      · exact Or.inl ⟨hmem, hne, hrest⟩
      · exact Or.inr ⟨first :: before, after, rfl, hafter⟩
    · rintro (⟨hmem, hne, hrest⟩ | ⟨before, after, heq, hafter⟩)
      · exact Or.inl ⟨Or.inr ⟨hmem, hne⟩, hrest⟩
      · cases before with
        | nil =>
          obtain ⟨rfl, rfl⟩ := List.cons.inj heq
          exact Or.inl ⟨Or.inl rfl, hafter⟩
        | cons other before =>
          obtain ⟨rfl, rfl⟩ := List.cons.inj heq
          exact Or.inr ⟨before, after, rfl, hafter⟩

/-- Of the lists for one file, merging keeps the last. -/
theorem mem_merge_iff {entries : Grouped} {entry : Text × List HostDiagnostic} :
    entry ∈ merge entries
      ↔ ∃ before after, entries = before ++ entry :: after ∧ entry.1 ∉ after.map Prod.fst := by
  have hnil : (([] : Grouped).map Prod.fst).Nodup := List.nodup_nil
  rw [merge, mem_foldl_place_iff hnil, or_iff_right fun h => List.not_mem_nil h.1]

/-- Merging brings nothing new. -/
theorem mem_of_mem_merge {entries : Grouped} {entry : Text × List HostDiagnostic}
    (h : entry ∈ merge entries) : entry ∈ entries := by
  obtain ⟨before, after, rfl, -⟩ := mem_merge_iff.mp h
  exact List.mem_append_right _ (List.mem_cons_self ..)

theorem foldl_place_of_nodup {entries merged : Grouped}
    (h : ((merged ++ entries).map Prod.fst).Nodup) :
    entries.foldl (fun merged entry => Collection.place merged entry.1 entry.2) merged
      = merged ++ entries := by
  induction entries generalizing merged with
  | nil => rw [List.foldl_nil, List.append_nil]
  | cons entry rest ih =>
    have hnew : entry.1 ∉ merged.map Prod.fst := by
      rw [List.map_append, List.nodup_append] at h
      exact fun hmem => h.2.2 entry.1 hmem entry.1 (List.mem_cons_self ..) rfl
    rw [List.foldl_cons, Collection.place_of_not_mem hnew, ih (by simpa using h),
      List.append_assoc, List.singleton_append]

/-- Where no file is there twice, nothing is merged. -/
theorem merge_of_nodup {entries : Grouped} (h : (entries.map Prod.fst).Nodup) :
    merge entries = entries := by
  rw [merge, foldl_place_of_nodup (by simpa using h), List.nil_append]

/-! ### Joining -/

theorem joined_eq_self {entries : Grouped} (h : ¬entries.HasPair) : entries.joined = entries := by
  refine (List.map_congr_left fun entry hentry => ?_).trans (List.map_id _)
  have hfile : ¬Text.HasPair entry.1 := fun hpair => h ⟨entry, hentry, Or.inl hpair⟩
  have hbucket : entry.2.map HostDiagnostic.joined = entry.2 := by
    refine (List.map_congr_left fun diagnostic hdiagnostic => ?_).trans (List.map_id _)
    exact HostDiagnostic.joined_eq_self_iff.mpr fun hpair =>
      h ⟨entry, hentry, Or.inr ⟨diagnostic, hdiagnostic, hpair⟩⟩
  rw [Text.joinHalves_eq_self_iff.mpr hfile, hbucket]
  rfl

/-- What is joined and merged has no pair any more. -/
theorem not_hasPair_merge_joined (entries : Grouped) : ¬HasPair (merge entries.joined) := by
  rintro ⟨entry, hentry, hpair⟩
  obtain ⟨held, -, rfl⟩ := List.mem_map.mp (mem_of_mem_merge hentry)
  rcases hpair with hpair | ⟨diagnostic, hdiagnostic, hpair⟩
  · exact Text.not_hasPair_joinHalves _ hpair
  · obtain ⟨before, -, rfl⟩ := List.mem_map.mp hdiagnostic
    exact HostDiagnostic.not_hasPair_joined before hpair

/-- Joining and merging change nothing exactly if there is no pair. -/
theorem merge_joined_eq_iff {entries : Grouped} (hdistinct : (entries.map Prod.fst).Nodup) :
    merge entries.joined = entries ↔ ¬entries.HasPair := by
  constructor
  · intro h
    rw [← h]
    exact not_hasPair_merge_joined entries
  · intro h
    rw [joined_eq_self h, merge_of_nodup hdistinct]

/-- **The errors that are left** after joining and merging are the lasting ones. -/
theorem hasError_merge_joined_iff {entries : Grouped} :
    HasError (merge entries.joined) ↔ entries.HasLastingError := by
  constructor
  · rintro ⟨entry, hentry, diagnostic, hdiagnostic, herror⟩
    obtain ⟨before, after, hsplit, hlast⟩ := mem_merge_iff.mp hentry
    obtain ⟨first, others, rfl, rfl, hothers⟩ := List.map_eq_append_iff.mp hsplit
    obtain ⟨held, later, rfl, rfl, rfl⟩ := List.map_eq_cons_iff.mp hothers
    obtain ⟨original, horiginal, rfl⟩ := List.mem_map.mp hdiagnostic
    refine ⟨first, held, later, rfl, ?_, original, horiginal, herror⟩
    intro other hother heq
    exact hlast (List.mem_map.mpr ⟨_, List.mem_map_of_mem hother, heq⟩)
  · rintro ⟨first, held, later, rfl, hlast, original, horiginal, herror⟩
    refine ⟨(joinHalves held.1, held.2.map HostDiagnostic.joined),
      mem_merge_iff.mpr ⟨joined first, joined later, ?_, ?_⟩, original.joined,
      List.mem_map_of_mem horiginal, herror⟩
    · rw [joined, List.map_append, List.map_cons]
      rfl
    · intro hmem
      obtain ⟨_, hjoined, heq⟩ := List.mem_map.mp hmem
      obtain ⟨other, hother, rfl⟩ := List.mem_map.mp hjoined
      exact hlast other hother heq

/-- A lasting error is an error. -/
theorem HasLastingError.hasError {entries : Grouped} (h : entries.HasLastingError) :
    entries.HasError := by
  obtain ⟨before, entry, after, rfl, -, herror⟩ := h
  exact ⟨entry, List.mem_append_right _ (List.mem_cons_self ..), herror⟩

end Grouped

end DiagnosticRelay
