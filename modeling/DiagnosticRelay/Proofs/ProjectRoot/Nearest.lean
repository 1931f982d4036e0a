import DiagnosticRelay.ProjectRoot
import DiagnosticRelay.Proofs.Path.Named
import Mathlib.Data.Nat.Find

/-!
# The search for a project finds the nearest marked directory

The search looks at a directory and those above it, one after the other, up to the first that is its
own parent (`NamedPath.IsReached`).  `search_eq_some_iff` says which one it gives: the nearest that is
marked, if it is within the limit.  The induction is on the limit, and one step of the search is one
step up (`isNearest_succ_iff`).

A directory is marked if one marker is seen there (`IsMarked`), and nothing is said about the other
looks.  So a look that fails hides neither the other markers nor the directories above.
-/

namespace DiagnosticRelay

namespace ProjectRoot

open NamedPath

variable {probes : Probes} {markers : List Text} {directory found : NamedPath} {n limit : Nat}

/-! ## The nearest marked directory -/

/-- Some marker is seen in a directory. -/
def IsMarked (probes : Probes) (markers : List Text) (directory : NamedPath) : Prop :=
  ∃ marker ∈ markers, probes.isPresent (directory.append (.ofText marker)) = some true

instance (probes : Probes) (markers : List Text) (directory : NamedPath) :
    Decidable (IsMarked probes markers directory) :=
  inferInstanceAs (Decidable (∃ marker ∈ markers, _))

/-- The nearest of a directory and those above it that is marked, by the number of steps to it. -/
structure IsNearest (probes : Probes) (markers : List Text) (directory : NamedPath) (n : Nat) :
    Prop where
  reached : directory.IsReached n
  marked : IsMarked probes markers (directory.ancestor n)
  unmarked : ∀ m < n, ¬IsMarked probes markers (directory.ancestor m)

/-- Where a search starts: at a path that is seen to be a directory, and else at its parent. -/
structure IsOrigin (probes : Probes) (start origin : NamedPath) : Prop where
  itself : probes.isDirectory start = some true → origin = start
  parent : probes.isDirectory start ≠ some true → origin = start.parent

theorem isMarked_iff : isMarked probes markers directory = true ↔
    IsMarked probes markers directory := by
  simp only [isMarked, IsMarked, List.any_eq_true, beq_iff_eq]

theorem isNearest_zero_iff : IsNearest probes markers directory 0 ↔
    IsMarked probes markers directory :=
  ⟨fun h => h.marked, fun h =>
    ⟨isReached_zero directory, h, fun m hm => absurd hm (Nat.not_lt_zero m)⟩⟩

/-- One step of the chain: what is nearest to an unmarked directory is nearest to its parent. -/
theorem isNearest_succ_iff : IsNearest probes markers directory (n + 1) ↔
    ¬IsMarked probes markers directory ∧ directory.parent ≠ directory ∧
      IsNearest probes markers directory.parent n := by
  constructor
  · rintro ⟨hreached, hmarked, hbelow⟩
    obtain ⟨htop, hreached⟩ := isReached_succ_iff.mp hreached
    rw [ancestor_succ] at hmarked
    refine ⟨hbelow 0 (Nat.zero_lt_succ n), htop, hreached, hmarked, fun m hm => ?_⟩
    rw [← ancestor_succ]
    exact hbelow (m + 1) (Nat.succ_lt_succ hm)
  · rintro ⟨hunmarked, htop, hreached, hmarked, hbelow⟩
    refine ⟨isReached_succ_iff.mpr ⟨htop, hreached⟩, by rwa [ancestor_succ], fun m hm => ?_⟩
    cases m with
    | zero => exact hunmarked
    | succ m =>
      rw [ancestor_succ]
      exact hbelow m (Nat.lt_of_succ_lt_succ hm)

/-- **A search gives the nearest marked directory within its limit.** -/
theorem search_eq_some_iff : search probes markers limit directory = some found ↔
    ∃ n < limit, IsNearest probes markers directory n ∧ found = directory.ancestor n := by
  induction limit generalizing directory with
  | zero =>
    refine ⟨fun h => (by cases h), ?_⟩
    rintro ⟨n, hn, -⟩
    exact absurd hn (Nat.not_lt_zero n)
  | succ limit ih =>
    rw [search]
    by_cases hmarked : IsMarked probes markers directory
    · rw [if_pos (isMarked_iff.mpr hmarked)]
      constructor
      · rintro ⟨⟩
        exact ⟨0, Nat.zero_lt_succ limit, isNearest_zero_iff.mpr hmarked, rfl⟩
      · rintro ⟨n, -, hnearest, rfl⟩
        cases n with
        | zero => rfl
        | succ n => exact absurd hmarked (isNearest_succ_iff.mp hnearest).1
    · rw [if_neg (mt isMarked_iff.mp hmarked)]
      by_cases htop : directory.parent = directory
      · rw [if_pos htop]
        refine ⟨fun h => (by cases h), ?_⟩
        rintro ⟨n, -, hnearest, -⟩
        cases n with
        | zero => exact absurd (isNearest_zero_iff.mp hnearest) hmarked
        | succ n => exact absurd htop (isNearest_succ_iff.mp hnearest).2.1
      · rw [if_neg htop, ih]
        constructor
        · rintro ⟨n, hn, hnearest, rfl⟩
          exact ⟨n + 1, Nat.succ_lt_succ hn, isNearest_succ_iff.mpr ⟨hmarked, htop, hnearest⟩,
            (ancestor_succ directory n).symm⟩
        · rintro ⟨n, hn, hnearest, rfl⟩
          cases n with
          | zero => exact absurd (isNearest_zero_iff.mp hnearest) hmarked
          | succ n =>
            exact ⟨n, Nat.lt_of_succ_lt_succ hn, (isNearest_succ_iff.mp hnearest).2.2,
              ancestor_succ directory n⟩

/-- If some directory on the way up is marked, then one of them is the nearest. -/
theorem exists_isNearest (hreached : directory.IsReached n)
    (hmarked : IsMarked probes markers (directory.ancestor n)) :
    ∃ m ≤ n, IsNearest probes markers directory m := by
  have hsome : ∃ n, IsMarked probes markers (directory.ancestor n) := ⟨n, hmarked⟩
  have hle : Nat.find hsome ≤ n := Nat.find_min' hsome hmarked
  exact ⟨Nat.find hsome, hle, hreached.of_le hle, Nat.find_spec hsome,
    fun m hm => Nat.find_min hsome hm⟩

theorem search_eq_none_iff : search probes markers limit directory = none ↔
    ∀ n < limit, directory.IsReached n → ¬IsMarked probes markers (directory.ancestor n) := by
  constructor
  · intro h n hn hreached hmarked
    obtain ⟨m, hm, hnearest⟩ := exists_isNearest hreached hmarked
    have hfound := search_eq_some_iff.mpr ⟨m, Nat.lt_of_le_of_lt hm hn, hnearest, rfl⟩
    rw [h] at hfound
    cases hfound
  · intro h
    rw [Option.eq_none_iff_forall_ne_some]
    intro found hfound
    obtain ⟨n, hn, hnearest, -⟩ := search_eq_some_iff.mp hfound
    exact h n hn hnearest.reached hnearest.marked

theorem IsOrigin.eq {start origin : NamedPath} (h : IsOrigin probes start origin) :
    ProjectRoot.origin probes start = origin := by
  rw [ProjectRoot.origin]
  split
  · next hdirectory => exact (h.itself (beq_iff_eq.mp hdirectory)).symm
  · next hdirectory => exact (h.parent (by rwa [beq_iff_eq] at hdirectory)).symm

theorem IsOrigin.exists_ancestor {start origin : NamedPath} (h : IsOrigin probes start origin) :
    ∃ n, origin = start.ancestor n := by
  by_cases hdirectory : probes.isDirectory start = some true
  · exact ⟨0, h.itself hdirectory⟩
  · exact ⟨1, h.parent hdirectory⟩

/-- **The search for a project gives the nearest marked directory**, from the start upwards to the
directory that is its own parent, if it is within the limit; and it gives nothing only if no
directory within the limit is marked.  A checker for which no directory is given runs in a directory
that this search finds above its file, and else in the file's own directory, which is absolute in
both cases. -/
theorem find_nearest (probes : Probes) (markers : List Text) :
    (∀ (limit : Int) (start origin : NamedPath), IsOrigin probes start origin →
      (∀ found, find probes markers limit.toNat start = some found ↔
        ∃ n : Nat, n < limit ∧ IsNearest probes markers origin n ∧ found = origin.ancestor n) ∧
      (find probes markers limit.toNat start = none ↔
        ∀ n : Nat, n < limit → origin.IsReached n →
          ¬IsMarked probes markers (origin.ancestor n)) ∧
      ∃ n, origin.IsReached n ∧ (origin.ancestor n).parent = origin.ancestor n) ∧
    ∀ home file origin : NamedPath, home.isAbsolute = true →
      IsOrigin probes (home.append file) origin →
      (workingDirectory probes home none markers file).isAbsolute = true ∧
      (∃ n, workingDirectory probes home none markers file = (home.append file).ancestor n) ∧
      ((∀ n < defaultDepth, origin.IsReached n →
        ¬IsMarked probes markers (origin.ancestor n)) →
          workingDirectory probes home none markers file = (home.append file).parent) := by
  refine ⟨fun limit start origin horigin => ⟨fun found => ?_, ?_, ?_⟩,
    fun home file origin hhome horigin => ?_⟩
  · rw [find, horigin.eq, search_eq_some_iff]
    simp only [Int.lt_toNat]
  · rw [find, horigin.eq, search_eq_none_iff]
    simp only [Int.lt_toNat]
  · refine ⟨origin.names.length, isReached_iff.mpr (Nat.le_refl _), parent_eq_self_iff.mpr ?_⟩
    rw [ancestor_eq, Nat.sub_self, List.take_zero]
  · have htarget := isAbsolute_append hhome file
    have hfind : find probes markers defaultDepth (home.append file)
        = search probes markers defaultDepth origin := by rw [find, horigin.eq]
    -- the directory is on the way up from the file, whether or not a project is found
    have hancestor : ∃ n, workingDirectory probes home none markers file
        = (home.append file).ancestor n := by
      obtain ⟨m, hm⟩ := horigin.exists_ancestor
      simp only [workingDirectory, hfind]
      cases hfound : search probes markers defaultDepth origin with
      | none => exact ⟨1, rfl⟩
      | some found =>
        obtain ⟨n, -, -, rfl⟩ := search_eq_some_iff.mp hfound
        exact ⟨n + m, by rw [hm, Option.getD_some, ancestor_ancestor]⟩
    refine ⟨?_, hancestor, fun hunmarked => ?_⟩
    · obtain ⟨n, hn⟩ := hancestor
      rw [hn, isAbsolute_ancestor, htarget]
    · simp only [workingDirectory, hfind, search_eq_none_iff.mpr hunmarked, Option.getD_none]

/-- The looks at a tree where a project is marked in `/w` and nothing can be found out about
`/w/p/.git` and about what is a directory. -/
def guardedProbes : Probes where
  isDirectory _ := none
  isPresent path :=
    if path = .ofText (text "/w/p/.git") then none
    else some (path == .ofText (text "/w/Cargo.toml"))

/-- A look that fails beside the file hides the project above neither for the other marker nor for
the directory above, but a limit of one does. -/
theorem find_nearest_guarded :
    find guardedProbes [text ".git", text "Cargo.toml"] 2 (.ofText (text "/w/p/a.x"))
        = some (.ofText (text "/w")) ∧
    find guardedProbes [text ".git", text "Cargo.toml"] 1 (.ofText (text "/w/p/a.x")) = none ∧
    workingDirectory guardedProbes (.ofText (text "/w")) none [text ".git"] (.ofText (text "p/a.x"))
      = .ofText (text "/w/p") := by
  have horigin : IsOrigin guardedProbes (.ofText (text "/w/p/a.x")) (.ofText (text "/w/p")) :=
    ⟨by decide, by decide⟩
  have hfound := (find_nearest guardedProbes [text ".git", text "Cargo.toml"]).1
  have hdirectory := (find_nearest guardedProbes [text ".git"]).2 (.ofText (text "/w"))
    (.ofText (text "p/a.x")) _ (by decide) horigin
  refine ⟨((hfound 2 _ _ horigin).1 _).mpr ⟨1, by decide, ?_, by decide⟩,
    (hfound 1 _ _ horigin).2.1.mpr fun n hn => ?_, hdirectory.2.2 (by decide)⟩
  · exact ⟨by decide, by decide, by decide⟩
  · obtain rfl : n = 0 := by omega
    decide

end ProjectRoot

end DiagnosticRelay
