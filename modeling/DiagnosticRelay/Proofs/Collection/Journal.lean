import DiagnosticRelay.Proofs.Collection.Publication
import Mathlib.Data.Set.Card

/-!
# A collection and its journal

A collection keeps two things and writes them one after the other: the diagnostics of each file, and
the journal.  The journal forgets the diagnostics and keeps their number.  `Tally` is what is left
of the entries in this way, and `Tally.read` says what one line of a journal does to it, without
looking at a collection.

* `tally_apply` is the step: a call does to the tally of a collection what its line says.
* `get_set` is the step for a single file: a call decides what the file holds, or leaves it alone.
* `replay_agrees` is the run: after any calls on an empty collection the journal read again
  gives the files in order, and each file holds what the last call that decided it has set.

The first step needs that no file is held twice: `Collection.place` stops at the first entry of a
file, and a line that writes a number speaks of all of them.  A lookup stops at the first entry, too,
so the second step needs no such thing.
-/

namespace DiagnosticRelay

/-- How many diagnostics each file has, in order. -/
abbrev Tally := List (Text × Nat)

namespace Tally

/-- Writes a number at a file: where the file is, and else at the end. -/
def write (tally : Tally) (file : Text) (n : Nat) : Tally :=
  if file ∈ tally.map Prod.fst then
    tally.map fun entry => if entry.1 = file then (file, n) else entry
  else tally ++ [(file, n)]

/-- Reads a line of a journal: a file of which none are left is taken out. -/
def read (tally : Tally) : Change → Tally
  | .clear => []
  | .set file 0 => tally.filter fun entry => entry.1 != file
  | .set file (n + 1) => tally.write file (n + 1)

/-- What a journal says by itself. -/
def ofJournal (journal : List Change) : Tally := journal.foldl read []

end Tally

/-- The numbers of diagnostics of a map. -/
def Grouped.tally (grouped : Grouped) : Tally :=
  grouped.map fun entry => (entry.1, entry.2.length)

namespace Collection

variable {collection : Collection} {entries : Grouped} {file other : Text}
  {diagnostics : List HostDiagnostic}

namespace Operation

/-- The line that a call leaves in the journal. -/
def change : Operation → Change
  | .clear => .clear
  | .set file diagnostics => .set file diagnostics.length

/-- Whether a call drops everything. -/
def isClear : Operation → Bool
  | .clear => true
  | .set .. => false

/-- The list that a call sets at a file, if it sets one. -/
def listAt? (file : Text) : Operation → Option (List HostDiagnostic)
  | .clear => none
  | .set other diagnostics => if other = file then some diagnostics else none

/-- The calls since the last one that dropped everything, the latest first. -/
def sinceClear (operations : List Operation) : List Operation :=
  operations.reverse.takeWhile fun operation => !operation.isClear

/-- The list of the last call that set a file since everything was dropped, empty if there is no
such call. -/
def lastListAt (operations : List Operation) (file : Text) : List HostDiagnostic :=
  ((sinceClear operations).findSome? (listAt? file)).getD []

theorem lastListAt_append_clear (operations : List Operation) (file : Text) :
    lastListAt (operations ++ [.clear]) file = [] := by
  rw [lastListAt, sinceClear, List.reverse_append]
  rfl

theorem lastListAt_append_set (operations : List Operation) (other file : Text)
    (diagnostics : List HostDiagnostic) :
    lastListAt (operations ++ [.set other diagnostics]) file
      = if other = file then diagnostics else lastListAt operations file := by
  have hsince : sinceClear (operations ++ [.set other diagnostics])
      = .set other diagnostics :: sinceClear operations := by
    rw [sinceClear, List.reverse_append]
    rfl
  rw [lastListAt, hsince, List.findSome?_cons, listAt?]
  by_cases h : other = file
  · rw [if_pos h, if_pos h]
    rfl
  · rw [if_neg h, if_neg h]
    rfl

end Operation

/-! ## The journal -/

theorem journal_apply (collection : Collection) (operation : Operation) :
    (collection.apply operation).journal = collection.journal ++ [operation.change] := by
  cases operation <;> rfl

theorem journal_replay (collection : Collection) (operations : List Operation) :
    (collection.replay operations).journal
      = collection.journal ++ operations.map Operation.change := by
  induction operations generalizing collection with
  | nil => exact (List.append_nil _).symm
  | cons operation rest ih =>
    rw [replay, List.foldl_cons, ← replay, ih, journal_apply, List.map_cons, List.append_assoc,
      List.singleton_append]

/-! ## Numbers of diagnostics -/

theorem map_fst_tally (entries : Grouped) : entries.tally.map Prod.fst = entries.map Prod.fst :=
  List.map_map

/-- A file that is held once is written where it is. -/
theorem place_of_mem (hnodup : (entries.map Prod.fst).Nodup) (h : file ∈ entries.map Prod.fst) :
    place entries file diagnostics
      = entries.map fun entry => if entry.1 = file then (file, diagnostics) else entry := by
  induction entries with
  | nil => cases h
  | cons first rest ih =>
    obtain ⟨key, bucket⟩ := first
    obtain ⟨hkey, hrest⟩ := List.nodup_cons.mp hnodup
    rw [place, List.map_cons]
    split
    · next hfile =>
      subst hfile
      have hothers : ∀ entry ∈ rest, (if entry.1 = key then (key, diagnostics) else entry) = entry :=
        fun entry hentry => if_neg fun heq => hkey (List.mem_map.mpr ⟨entry, hentry, heq⟩)
      rw [List.map_congr_left hothers, List.map_id']
    · next hfile => rw [ih hrest ((List.mem_cons.mp h).resolve_left (Ne.symm hfile))]

theorem tally_place (hnodup : (entries.map Prod.fst).Nodup) (file : Text)
    (diagnostics : List HostDiagnostic) :
    (place entries file diagnostics).tally = entries.tally.write file diagnostics.length := by
  rw [Tally.write, map_fst_tally]
  by_cases h : file ∈ entries.map Prod.fst
  · rw [if_pos h, place_of_mem hnodup h, Grouped.tally, Grouped.tally, List.map_map, List.map_map]
    refine List.map_congr_left fun entry _ => ?_
    simp only [Function.comp_apply]
    split <;> rfl
  · rw [if_neg h, place_of_not_mem h, Grouped.tally, List.map_append]
    rfl

theorem tally_remove (entries : Grouped) (file : Text) :
    (remove entries file).tally = entries.tally.filter fun entry => entry.1 != file := by
  rw [Grouped.tally, Grouped.tally, remove, List.filter_map]
  rfl

/-- **A call does to the numbers what its line in the journal says.** -/
theorem tally_apply (h : collection.entries.IsProper) (operation : Operation) :
    (collection.apply operation).entries.tally = collection.entries.tally.read operation.change := by
  cases operation with
  | clear => rfl
  | set file diagnostics =>
    cases diagnostics with
    | nil => exact tally_remove collection.entries file
    | cons first rest => exact tally_place h.nodup file (first :: rest)

theorem tally_replay (h : collection.entries.IsProper) (operations : List Operation) :
    (collection.replay operations).entries.tally
      = (operations.map Operation.change).foldl Tally.read collection.entries.tally := by
  induction operations generalizing collection with
  | nil => rfl
  | cons operation rest ih =>
    rw [replay, List.foldl_cons, ← replay, ih (isProper_apply h operation), tally_apply h,
      List.map_cons, List.foldl_cons]

/-! ## One file -/

theorem get_cons (key : Text) (bucket : List HostDiagnostic) (rest : Grouped)
    (journal : List Change) (file : Text) :
    get ⟨(key, bucket) :: rest, journal⟩ file
      = if key = file then bucket else get ⟨rest, journal⟩ file := by
  rw [get, get, List.find?_cons]
  by_cases hkey : key = file
  · simp [hkey]
  · simp [hkey, beq_eq_false_iff_ne.mpr hkey]

/-- What is put at a file is found there, and nothing else changes for the others. -/
theorem get_place (entries : Grouped) (file : Text) (diagnostics : List HostDiagnostic)
    (journal : List Change) (other : Text) :
    get ⟨place entries file diagnostics, journal⟩ other
      = if file = other then diagnostics else get ⟨entries, journal⟩ other := by
  induction entries with
  | nil => exact get_cons file diagnostics [] journal other
  | cons first rest ih =>
    obtain ⟨key, bucket⟩ := first
    rw [place]
    by_cases hkey : key = file
    · rw [if_pos hkey, get_cons, get_cons, hkey]
      by_cases hfile : file = other <;> simp [hfile]
    · rw [if_neg hkey, get_cons, ih, get_cons]
      by_cases hother : key = other
      · rw [if_pos hother, if_pos hother, if_neg fun h => hkey (hother.trans h.symm)]
      · rw [if_neg hother, if_neg hother]

/-- A file that is taken out has no diagnostics left, and the others keep theirs. -/
theorem get_remove (entries : Grouped) (file : Text) (journal : List Change) (other : Text) :
    get ⟨remove entries file, journal⟩ other
      = if file = other then [] else get ⟨entries, journal⟩ other := by
  induction entries with
  | nil => exact (ite_self []).symm
  | cons first rest ih =>
    obtain ⟨key, bucket⟩ := first
    rw [remove] at ih ⊢
    by_cases hkey : key = file
    · rw [List.filter_cons_of_neg (by simp [hkey]), ih, get_cons, hkey]
      by_cases hfile : file = other <;> simp [hfile]
    · rw [List.filter_cons_of_pos (by simpa using hkey), get_cons, ih, get_cons]
      by_cases hother : key = other
      · rw [if_pos hother, if_pos hother, if_neg fun h => hkey (hother.trans h.symm)]
      · rw [if_neg hother, if_neg hother]

/-- **A call that sets a file decides what the file holds** and leaves the other files alone. -/
theorem get_set (collection : Collection) (file : Text) (diagnostics : List HostDiagnostic)
    (other : Text) :
    (collection.set file diagnostics).get other
      = if file = other then diagnostics else collection.get other := by
  cases diagnostics with
  | nil => exact get_remove collection.entries file _ other
  | cons first rest => exact get_place collection.entries file (first :: rest) _ other

theorem contains_iff : collection.contains file = true ↔ file ∈ collection.entries.map Prod.fst := by
  rw [contains, List.any_eq_true, List.mem_map]
  simp only [beq_iff_eq]

/-- A file is held exactly if it has diagnostics. -/
theorem get_ne_nil_iff (h : collection.entries.IsProper) :
    collection.get file ≠ [] ↔ file ∈ collection.entries.map Prod.fst := by
  obtain ⟨entries, journal⟩ := collection
  induction entries with
  | nil => exact iff_of_false (fun hne => hne rfl) List.not_mem_nil
  | cons first rest ih =>
    obtain ⟨key, bucket⟩ := first
    obtain ⟨-, hbucket, hrest⟩ := Grouped.isProper_cons.mp h
    rw [get_cons, List.map_cons, List.mem_cons]
    by_cases hkey : key = file
    · rw [if_pos hkey]
      exact iff_of_true hbucket (Or.inl hkey.symm)
    · rw [if_neg hkey, ih hrest]
      exact ⟨Or.inr, fun hmem => hmem.resolve_left (Ne.symm hkey)⟩

/-- A file holds what was last set there. -/
theorem get_replay (operations : List Operation) (file : Text) :
    (({} : Collection).replay operations).get file = Operation.lastListAt operations file := by
  induction operations using List.reverseRecOn with
  | nil => rfl
  | append_singleton operations operation ih =>
    rw [replay_append]
    cases operation with
    | clear =>
      rw [Operation.lastListAt_append_clear]
      rfl
    | set other diagnostics =>
      rw [Operation.lastListAt_append_set, ← ih]
      exact get_set _ other diagnostics file

/-! ## Counting -/

theorem count_none (collection : Collection) :
    collection.count none = (collection.entries.map fun entry => entry.2.length).sum := by
  simp only [count, Option.all_none, List.countP_true, List.length_flatMap]

theorem countP_severities (diagnostics : List HostDiagnostic) :
    (Severity.all.map fun severity =>
      diagnostics.countP fun diagnostic => diagnostic.severity == severity).sum
        = diagnostics.length := by
  induction diagnostics with
  | nil => rfl
  | cons first rest ih =>
    simp only [Severity.all, List.map_cons, List.map_nil, List.sum_cons, List.sum_nil] at ih ⊢
    simp only [List.countP_cons, List.length_cons]
    cases first.severity <;> simp <;> omega

theorem sum_count (collection : Collection) :
    (Severity.all.map fun severity => collection.count (some severity)).sum
      = collection.count none := by
  simp only [count, Option.all_some, Option.all_none, List.countP_true]
  exact countP_severities _

theorem size_eq_ncard (h : collection.entries.IsProper) :
    collection.size = {file | collection.get file ≠ []}.ncard := by
  have hfiles : {file | collection.get file ≠ []}
      = ((collection.entries.map Prod.fst).toFinset : Set Text) := by
    ext file
    rw [Set.mem_ofPred_eq, get_ne_nil_iff h, List.coe_toFinset, Set.mem_ofPred_eq]
  rw [hfiles, Set.ncard_coe_finset, List.toFinset_card_of_nodup h.nodup, List.length_map, size]

/-! ## Agreement -/

/-- What a collection has to do with the calls that were made on it. -/
structure Agrees (operations : List Operation) (collection : Collection) : Prop where
  /-- The journal has one line for each call, in order. -/
  journal : collection.journal = operations.map Operation.change
  /-- The journal read again gives the files in order, with the numbers of their diagnostics. -/
  tally : Tally.ofJournal collection.journal = collection.entries.tally
  /-- No file is held with an empty list. -/
  nonempty : ∀ entry ∈ collection.entries, entry.2 ≠ []
  /-- A file is held exactly if it has diagnostics. -/
  contains : ∀ file, collection.contains file = true ↔ collection.get file ≠ []
  /-- There are as many files as have diagnostics. -/
  size : collection.size = {file | collection.get file ≠ []}.ncard
  /-- A file has what was last set there since everything was dropped. -/
  get : ∀ file, collection.get file = Operation.lastListAt operations file
  /-- The number of all diagnostics is the sum over the files. -/
  count : collection.count none = (collection.entries.map fun entry => entry.2.length).sum
  /-- It is the sum over the levels, too. -/
  severities : collection.count none
    = collection.count (some .error) + collection.count (some .warning)
      + collection.count (some .note) + collection.count (some .info)

/-- **A collection and its journal agree** after any calls on an empty collection. -/
theorem replay_agrees (operations : List Operation) :
    Agrees operations (({} : Collection).replay operations) := by
  have hproper : (({} : Collection).replay operations).entries.IsProper :=
    isProper_replay Grouped.isProper_nil operations
  have hjournal := journal_replay {} operations
  rw [List.nil_append] at hjournal
  have htally : (({} : Collection).replay operations).entries.tally
      = Tally.ofJournal (operations.map Operation.change) :=
    tally_replay Grouped.isProper_nil operations
  exact {
    journal := hjournal
    tally := by rw [hjournal, htally]
    nonempty := hproper.nonempty
    contains := fun file => contains_iff.trans (get_ne_nil_iff hproper).symm
    size := size_eq_ncard hproper
    get := get_replay operations
    count := count_none _
    severities := by
      rw [← sum_count]
      simp only [Severity.all, List.map_cons, List.map_nil, List.sum_cons, List.sum_nil]
      omega }

end Collection

end DiagnosticRelay
