import DiagnosticRelay.Collection
import DiagnosticRelay.Proofs.Grouping.Buckets

/-!
# What publishing leaves behind

A collection is changed by two calls only, and publishing is made of them: it clears, and then sets
the files one after another.  Nothing in the calls themselves says that the outcome is the published
map.  If the map named a file twice, the second list would replace the first one in place; if
it held a file with an empty list, the file would vanish.  What rules this out is how the map came
about: grouping never does either (`Grouped.IsProper`).

* `Collection.replay` makes any history of calls.
* `Collection.isProper_replay` says that such a history never leaves a file twice, nor a file with
  an empty list.
* `Collection.publish_eq_replay` gives the calls that publishing makes, and `Collection.publish_eq`
  what they amount to for a proper map: the entries are the map, whatever was there before, and
  the journal grows by one line for each call.
-/

namespace DiagnosticRelay

namespace Grouped

/-- No file twice, and none with an empty list. -/
structure IsProper (grouped : Grouped) : Prop where
  nodup : (grouped.map Prod.fst).Nodup
  nonempty : ∀ entry ∈ grouped, entry.2 ≠ []

theorem isProper_nil : IsProper [] := ⟨List.nodup_nil, by simp⟩

theorem isProper_cons {key : Text} {bucket : List HostDiagnostic} {rest : Grouped} :
    IsProper ((key, bucket) :: rest)
      ↔ key ∉ rest.map Prod.fst ∧ bucket ≠ [] ∧ IsProper rest := by
  constructor
  · rintro ⟨hnodup, hnonempty⟩
    rw [List.map_cons, List.nodup_cons] at hnodup
    exact ⟨hnodup.1, hnonempty _ (List.mem_cons_self ..), hnodup.2,
      fun entry hentry => hnonempty entry (List.mem_cons_of_mem _ hentry)⟩
  · rintro ⟨hkey, hbucket, hnodup, hnonempty⟩
    refine ⟨List.nodup_cons.mpr ⟨hkey, hnodup⟩, ?_⟩
    intro entry hentry
    rcases List.mem_cons.mp hentry with rfl | hentry
    · exact hbucket
    · exact hnonempty entry hentry

/-- The lines that publishing a map adds to a journal. -/
def changes (grouped : Grouped) (trigger : Text) : List Change :=
  .clear :: if grouped.isEmpty then [.set trigger 0]
    else grouped.map fun entry => .set entry.1 entry.2.length

end Grouped

namespace Collection

/-! ## One call -/

theorem place_of_not_mem {entries : Grouped} {file : Text} {diagnostics : List HostDiagnostic}
    (h : file ∉ entries.map Prod.fst) : place entries file diagnostics
      = entries ++ [(file, diagnostics)] := by
  induction entries with
  | nil => rfl
  | cons entry rest ih =>
    obtain ⟨key, bucket⟩ := entry
    rw [List.map_cons, List.mem_cons, not_or] at h
    rw [place, if_neg (Ne.symm h.1), ih h.2, List.cons_append]

theorem mem_keys_place {entries : Grouped} {file key : Text} {diagnostics : List HostDiagnostic} :
    key ∈ (place entries file diagnostics).map Prod.fst
      ↔ key = file ∨ key ∈ entries.map Prod.fst := by
  induction entries with
  | nil => simp [place]
  | cons entry rest ih =>
    obtain ⟨other, bucket⟩ := entry
    rw [place]
    split
    · next hother => simp [hother]
    · rw [List.map_cons, List.mem_cons, ih, List.map_cons, List.mem_cons]
      exact or_left_comm

theorem nodup_place {entries : Grouped} (h : (entries.map Prod.fst).Nodup) (file : Text)
    (diagnostics : List HostDiagnostic) :
    ((place entries file diagnostics).map Prod.fst).Nodup := by
  induction entries with
  | nil => exact List.nodup_cons.mpr ⟨List.not_mem_nil, List.nodup_nil⟩
  | cons first rest ih =>
    obtain ⟨key, bucket⟩ := first
    obtain ⟨hkey, hrest⟩ := List.nodup_cons.mp h
    rw [place]
    split
    · exact h
    · next hother =>
      refine List.nodup_cons.mpr ⟨?_, ih hrest⟩
      rw [mem_keys_place]
      exact fun hmem => hmem.elim hother hkey

theorem mem_place_iff {entries : Grouped} (h : (entries.map Prod.fst).Nodup) {file : Text}
    {diagnostics : List HostDiagnostic} {entry : Text × List HostDiagnostic} :
    entry ∈ place entries file diagnostics
      ↔ entry = (file, diagnostics) ∨ entry ∈ entries ∧ entry.1 ≠ file := by
  induction entries with
  | nil => simp [place]
  | cons first rest ih =>
    obtain ⟨key, bucket⟩ := first
    obtain ⟨hkey, hrest⟩ := List.nodup_cons.mp h
    rw [place]
    split
    · next hfile =>
      subst hfile
      -- the list that is replaced is the only one of its file
      have hothers (hmem : entry ∈ rest) : entry.1 ≠ key :=
        fun heq => hkey (List.mem_map.mpr ⟨entry, hmem, heq⟩)
      rw [List.mem_cons, List.mem_cons]
      constructor
      · rintro (heq | hmem)
        · exact Or.inl heq
        · exact Or.inr ⟨Or.inr hmem, hothers hmem⟩
      · rintro (heq | ⟨rfl | hmem, hne⟩)
        · exact Or.inl heq
        · exact absurd rfl hne
        · exact Or.inr hmem
    · next hfile =>
      rw [List.mem_cons, ih hrest, List.mem_cons]
      constructor
      · rintro (rfl | heq | ⟨hmem, hne⟩)
        · exact Or.inr ⟨Or.inl rfl, hfile⟩
        · exact Or.inl heq
        · exact Or.inr ⟨Or.inr hmem, hne⟩
      · rintro (heq | ⟨heq | hmem, hne⟩)
        · exact Or.inr (Or.inl heq)
        · exact Or.inl heq
        · exact Or.inr (Or.inr ⟨hmem, hne⟩)

theorem isProper_place {entries : Grouped} (h : entries.IsProper) (file : Text)
    {diagnostics : List HostDiagnostic} (hne : diagnostics ≠ []) :
    (place entries file diagnostics).IsProper := by
  refine ⟨nodup_place h.nodup file diagnostics, ?_⟩
  intro entry hentry
  rcases (mem_place_iff h.nodup).mp hentry with rfl | ⟨hheld, -⟩
  · exact hne
  · exact h.nonempty entry hheld

theorem isProper_remove {entries : Grouped} (h : entries.IsProper) (file : Text) :
    (remove entries file).IsProper :=
  ⟨h.nodup.sublist (List.filter_sublist.map _),
    fun entry hentry => h.nonempty entry (List.mem_filter.mp hentry).1⟩

theorem isProper_set {collection : Collection} (h : collection.entries.IsProper) (file : Text)
    (diagnostics : List HostDiagnostic) : (collection.set file diagnostics).entries.IsProper := by
  rw [set]
  by_cases hempty : diagnostics = []
  · rw [if_pos (by rw [hempty]; rfl)]
    exact isProper_remove h file
  · rw [if_neg (by rwa [List.isEmpty_iff])]
    exact isProper_place h file hempty

/-- A new file goes to the end. -/
theorem set_of_not_mem {collection : Collection} {file : Text}
    {diagnostics : List HostDiagnostic} (hne : diagnostics ≠ [])
    (h : file ∉ collection.entries.map Prod.fst) :
    (collection.set file diagnostics).entries = collection.entries ++ [(file, diagnostics)] := by
  rw [set, if_neg (by rwa [List.isEmpty_iff]), place_of_not_mem h]

/-! ## Grouping -/

theorem isProper_buckets (keyed : List (Text × HostDiagnostic)) :
    (Grouped.buckets keyed).IsProper := by
  constructor
  · rw [Grouped.map_fst_buckets]
    exact nodup_eraseDups _
  · rintro entry hentry
    obtain ⟨file, hfile, rfl⟩ := List.mem_map.mp hentry
    obtain ⟨shown, hshown, rfl⟩ := List.mem_map.mp (List.mem_eraseDups.mp hfile)
    exact List.ne_nil_of_mem
      (List.mem_map_of_mem (List.mem_filter.mpr ⟨hshown, beq_self_eq_true shown.1⟩))

/-- **Grouping gives proper maps.** -/
theorem isProper_ofDiagnostics {source : Option Text} {diagnostics : List Diagnostic}
    {grouped : Grouped} (h : Grouped.ofDiagnostics source diagnostics = .ok grouped) :
    grouped.IsProper := by
  rw [Grouped.ofDiagnostics_eq_buckets, map_eq_ok] at h
  obtain ⟨keyed, -, rfl⟩ := h
  exact isProper_buckets keyed

/-! ## A history of calls -/

/-- A call that changes a collection. -/
inductive Operation where
  | clear
  | set (file : Text) (diagnostics : List HostDiagnostic)

/-- Makes a call. -/
def apply (collection : Collection) : Operation → Collection
  | .clear => collection.clear
  | .set file diagnostics => collection.set file diagnostics

/-- Makes calls one after another. -/
def replay (collection : Collection) (operations : List Operation) : Collection :=
  operations.foldl apply collection

theorem replay_append (collection : Collection) (first second : List Operation) :
    collection.replay (first ++ second) = (collection.replay first).replay second :=
  List.foldl_append

theorem isProper_apply {collection : Collection} (h : collection.entries.IsProper)
    (operation : Operation) : (collection.apply operation).entries.IsProper := by
  cases operation with
  | clear => exact Grouped.isProper_nil
  | set file diagnostics => exact isProper_set h file diagnostics

/-- **No history of calls leaves a file twice or with an empty list.** -/
theorem isProper_replay {collection : Collection} (h : collection.entries.IsProper)
    (operations : List Operation) : (collection.replay operations).entries.IsProper := by
  induction operations generalizing collection with
  | nil => exact h
  | cons operation rest ih => exact ih (isProper_apply h operation)

/-! ## Publishing -/

/-- The calls that publishing makes. -/
def publication (grouped : Grouped) (trigger : Text) : List Operation :=
  .clear :: if grouped.isEmpty then [.set trigger []]
    else grouped.map fun entry => .set entry.1 entry.2

theorem publish_eq_replay (collection : Collection) (grouped : Grouped) (trigger : Text) :
    collection.publish grouped trigger = collection.replay (publication grouped trigger) := by
  rw [publish, publication, replay, List.foldl_cons]
  split
  · rfl
  · rw [List.foldl_map]
    rfl

/-- Setting files that are new and proper puts them behind the others. -/
theorem foldl_set {collection : Collection} {grouped : Grouped} (h : grouped.IsProper)
    (hnew : ∀ file ∈ grouped.map Prod.fst, file ∉ collection.entries.map Prod.fst) :
    grouped.foldl (fun collection entry => collection.set entry.1 entry.2) collection
      = ⟨collection.entries ++ grouped,
          collection.journal ++ grouped.map fun entry => .set entry.1 entry.2.length⟩ := by
  induction grouped generalizing collection with
  | nil => simp
  | cons entry rest ih =>
    obtain ⟨key, bucket⟩ := entry
    obtain ⟨hkey, hbucket, hrest⟩ := Grouped.isProper_cons.mp h
    have hset := set_of_not_mem hbucket (hnew key (List.mem_cons_self ..))
    rw [List.foldl_cons, ih hrest, hset, journal_set]
    · simp
    · intro file hfile
      rw [hset, List.map_append, List.mem_append, not_or]
      refine ⟨hnew file (List.mem_cons_of_mem _ hfile), ?_⟩
      rintro hmem
      rw [List.mem_singleton.mp hmem] at hfile
      exact hkey hfile

/-- **Publishing a proper map replaces everything.** -/
theorem publish_eq {grouped : Grouped} (h : grouped.IsProper) (collection : Collection)
    (trigger : Text) : collection.publish grouped trigger
      = ⟨grouped, collection.journal ++ grouped.changes trigger⟩ := by
  rw [publish, Grouped.changes]
  split
  · next hempty =>
    obtain rfl := List.isEmpty_iff.mp hempty
    simp [set, remove]
  · rw [foldl_set h (by simp)]
    simp

end Collection

end DiagnosticRelay
