import DiagnosticRelay.Proofs.Path.DriveNormalForm

/-!
# Keys of files on drives

With drives, the key of a reported file is `normalize (raiseDrive (located directory path))`.  It
is meant to be absolute and canonical, and `resolve_windows_canonical` says how far it is, for
every reference and every directory that is rooted on a drive letter.

The three functions are taken one after the other, each with what it leaves alone.  `located` makes
a path absolute, with one exception (`isAbsolute_located_iff`): a path such as `d:a.c` goes on from
wherever the drive `d:` stands, which nobody knows if the directory is on another drive
(`LeavesDrive`).  `raiseDrive` and `normalize` keep what is absolute
(`isAbsolute_raiseDrive`, `isAbsolute_normalize`), and `normalize` keeps the raised letter
(`raiseDrive_normalize`).  So the only further exception is the normal form that is not in normal
form (`UncoversDrive`); such a path is rooted, and a rooted path is its own candidate
(`uncoversDrive_raiseDrive_located_iff`).

When a key is reported again from another directory, it is no reference of a scheme, since it has
no slashes (`slash_not_mem_normalize`).  If it is absolute, the directory does not matter.  If it is
not, it stays what it is as long as it leaves the drive of that directory, too.
-/

namespace DiagnosticRelay

namespace Path

namespace Windows

/-! ## Raised letters -/

/-- Either nothing is raised, or a small letter in front of a colon. -/
theorem raiseDrive_cases (path : Text) :
    raiseDrive path = path ∨
      ∃ c rest, path = .char c :: .char ':' :: rest ∧ 'a' ≤ c ∧ c ≤ 'z' := by
  rw [raiseDrive.eq_def]
  split
  · next c rest =>
    split
    · next hsmall => exact Or.inr ⟨c, rest, rfl, hsmall⟩
    · exact Or.inl rfl
  · exact Or.inl rfl

theorem raiseDrive_raiseDrive (path : Text) : raiseDrive (raiseDrive path) = raiseDrive path := by
  rcases raiseDrive_cases path with hsame | ⟨c, rest, rfl, hlow, hhigh⟩
  · rw [hsame, hsame]
  · rw [raiseDrive_small hlow hhigh, raiseDrive_capital hlow hhigh]

theorem capital_of_raiseDrive_eq {c : Char} {rest : Text}
    (h : raiseDrive (.char c :: .char ':' :: rest) = .char c :: .char ':' :: rest)
    (hletter : (CodePoint.char c).isAsciiLetter = true) : 'A' ≤ c ∧ c ≤ 'Z' := by
  rw [CodePoint.isAsciiLetter, Bool.or_eq_true, Bool.and_eq_true, Bool.and_eq_true] at hletter
  rcases hletter with ⟨hlow, hhigh⟩ | ⟨hlow, hhigh⟩
  · exact ⟨of_decide_eq_true hlow, of_decide_eq_true hhigh⟩
  · have hlow : 'a' ≤ c := of_decide_eq_true hlow
    have hhigh : c ≤ 'z' := of_decide_eq_true hhigh
    rw [raiseDrive_small hlow hhigh, List.cons.injEq, CodePoint.char.injEq] at h
    exact absurd (h.1.symm ▸ ⟨hlow, hhigh⟩) (smallLetter_facts hlow hhigh).2.2.1

/-- What follows the drive does not matter to its letter. -/
theorem raiseDrive_colon {c : CodePoint} {rest : Text}
    (h : raiseDrive (c :: .char ':' :: rest) = c :: .char ':' :: rest) (other : Text) :
    raiseDrive (c :: .char ':' :: other) = c :: .char ':' :: other := by
  rcases raiseDrive_cases (c :: .char ':' :: other) with hsame | ⟨d, after, hpath, hlow, hhigh⟩
  · exact hsame
  · cases hpath
    rw [raiseDrive_small hlow hhigh] at h ⊢
    rw [(List.cons.inj h).1]

theorem raiseDrive_of_isRooted {path : Text} (h : isRooted path = true) :
    raiseDrive path = path := by
  rcases raiseDrive_cases path with hsame | ⟨c, rest, rfl, hlow, hhigh⟩
  · exact hsame
  · exact absurd h (Bool.eq_false_iff.mp
      (isSeparator_of_isAsciiLetter (smallLetter_facts hlow hhigh).1))

theorem isRooted_raiseDrive (path : Text) : isRooted (raiseDrive path) = isRooted path := by
  rcases raiseDrive_cases path with hsame | ⟨c, rest, rfl, hlow, hhigh⟩
  · rw [hsame]
  · obtain ⟨hsmall, hcapital, -⟩ := smallLetter_facts hlow hhigh
    rw [raiseDrive_small hlow hhigh, isRooted, isRooted, isSeparator_of_isAsciiLetter hcapital,
      isSeparator_of_isAsciiLetter hsmall]

theorem isAbsolute_raiseDrive (path : Text) :
    isAbsolute (raiseDrive path) = isAbsolute path := by
  rcases raiseDrive_cases path with hsame | ⟨c, rest, rfl, hlow, hhigh⟩
  · rw [hsame]
  · obtain ⟨hsmall, hcapital, -⟩ := smallLetter_facts hlow hhigh
    rw [raiseDrive_small hlow hhigh, isAbsolute_colon (isSeparator_of_isAsciiLetter hcapital),
      isAbsolute_colon (isSeparator_of_isAsciiLetter hsmall)]

theorem IsAnchored.raiseDrive {path : Text} (h : IsAnchored path) :
    IsAnchored (Windows.raiseDrive path) := by
  rcases raiseDrive_cases path with hsame | ⟨c, rest, rfl, hlow, hhigh⟩
  · rwa [hsame]
  · rw [raiseDrive_small hlow hhigh]
    exact Or.inr ⟨_, _, rfl⟩

/-! ## Anchored paths and their normal forms -/

/-- An anchored path that is not rooted is on a drive. -/
theorem IsAnchored.exists_colon {path : Text} (h : IsAnchored path)
    (hrooted : isRooted path = false) :
    ∃ c rest, path = c :: .char ':' :: rest ∧ isSeparator c = false := by
  rcases h with h | ⟨c, rest, rfl⟩
  · rw [h] at hrooted
    cases hrooted
  · exact ⟨c, rest, rfl, hrooted⟩

theorem normalize_colon_of_isSeparator_eq {c : CodePoint} (hc : isSeparator c = false)
    (rest : Text) :
    normalize (c :: .char ':' :: rest)
      = c :: .char ':' :: tidied [c, .char ':'] (backslashed rest) := by
  have hpoint : backslashedPoint c = c := by
    rw [backslashedPoint, if_neg]
    rintro rfl
    cases hc
  rw [normalize_colon, hpoint]

theorem isRooted_tidied_backslashed (drive rest : Text) :
    isRooted (tidied drive (backslashed rest)) = isRooted rest :=
  (isRooted_tidied (slash_not_mem_backslashed rest) drive).trans (isRooted_backslashed rest)

theorem isRooted_normalize {path : Text} (h : isRooted path = true) :
    isRooted (normalize path) = true := by
  obtain ⟨front, hfront⟩ := exists_normalize_eq_of_isRooted h
  rw [hfront]
  rfl

theorem isAbsolute_normalize {path : Text} (h : IsAnchored path) :
    isAbsolute (normalize path) = isAbsolute path := by
  by_cases hrooted : isRooted path = true
  · rw [isAbsolute_of_isRooted hrooted, isAbsolute_of_isRooted (isRooted_normalize hrooted)]
  · obtain ⟨c, rest, rfl, hc⟩ := h.exists_colon (Bool.not_eq_true _ ▸ hrooted)
    rw [normalize_colon_of_isSeparator_eq hc, isAbsolute_colon hc, isAbsolute_colon hc,
      isRooted_tidied_backslashed]

theorem raiseDrive_normalize {path : Text} (h : IsAnchored path)
    (hraised : raiseDrive path = path) : raiseDrive (normalize path) = normalize path := by
  by_cases hrooted : isRooted path = true
  · exact raiseDrive_of_isRooted (isRooted_normalize hrooted)
  · obtain ⟨c, rest, rfl, hc⟩ := h.exists_colon (Bool.not_eq_true _ ▸ hrooted)
    rw [normalize_colon_of_isSeparator_eq hc]
    exact raiseDrive_colon hraised _

/-! ## Paths that leave a drive -/

/-- A directory that is rooted on a drive letter. -/
def IsDriveRooted (directory : Text) : Prop :=
  ∃ letter separator rest, directory = letter :: .char ':' :: separator :: rest ∧
    letter.isAsciiLetter = true ∧ isSeparator separator = true

/-- A path that goes on from wherever its drive stands, while the directory is on another drive. -/
def LeavesDrive (directory path : Text) : Prop :=
  ∃ c rest, path = c :: .char ':' :: rest ∧ isSeparator c = false ∧ isRooted rest = false ∧
    sameDrive [c, .char ':'] (splitDrive directory).1 = false

section Leaves

variable {directory path : Text}

theorem LeavesDrive.isAbsolute_eq (h : LeavesDrive directory path) : isAbsolute path = false := by
  obtain ⟨c, rest, rfl, hc, hrest, -⟩ := h
  rw [isAbsolute_colon hc, hrest]

theorem LeavesDrive.isRooted_eq (h : LeavesDrive directory path) : isRooted path = false := by
  obtain ⟨c, rest, rfl, hc, -⟩ := h
  exact hc

theorem leavesDrive_colon_iff {c : CodePoint} {rest : Text} (hc : isSeparator c = false) :
    LeavesDrive directory (c :: .char ':' :: rest) ↔
      isRooted rest = false ∧ sameDrive [c, .char ':'] (splitDrive directory).1 = false := by
  constructor
  · rintro ⟨d, after, hpath, -, h⟩
    cases hpath
    exact h
  · exact fun h => ⟨c, rest, rfl, hc, h⟩

theorem leavesDrive_raiseDrive_iff :
    LeavesDrive directory (raiseDrive path) ↔ LeavesDrive directory path := by
  rcases raiseDrive_cases path with hsame | ⟨c, rest, rfl, hlow, hhigh⟩
  · rw [hsame]
  · obtain ⟨hsmall, hcapital, -⟩ := smallLetter_facts hlow hhigh
    rw [raiseDrive_small hlow hhigh,
      leavesDrive_colon_iff (isSeparator_of_isAsciiLetter hcapital),
      leavesDrive_colon_iff (isSeparator_of_isAsciiLetter hsmall),
      sameDrive_capital_left hlow hhigh]

theorem leavesDrive_normalize_iff (h : IsAnchored path) :
    LeavesDrive directory (normalize path) ↔ LeavesDrive directory path := by
  by_cases hrooted : isRooted path = true
  · exact iff_of_false
      (fun hleaves => Bool.false_ne_true
        (hleaves.isRooted_eq.symm.trans (isRooted_normalize hrooted)))
      fun hleaves => Bool.false_ne_true (hleaves.isRooted_eq.symm.trans hrooted)
  · obtain ⟨c, rest, rfl, hc⟩ := h.exists_colon (Bool.not_eq_true _ ▸ hrooted)
    rw [normalize_colon_of_isSeparator_eq hc, leavesDrive_colon_iff hc, leavesDrive_colon_iff hc,
      isRooted_tidied_backslashed]

theorem LeavesDrive.isAnchored (h : LeavesDrive directory path) : IsAnchored path := by
  obtain ⟨c, rest, rfl, -⟩ := h
  exact Or.inr ⟨c, rest, rfl⟩

/-- A path that leaves the drive of the directory is seen as it is. -/
theorem LeavesDrive.located_eq (h : LeavesDrive directory path) :
    located directory path = path := by
  obtain ⟨c, rest, rfl, hc, hrest, hother⟩ := h
  rw [located_colon directory hc, hrest, hother]
  rfl

end Leaves

theorem isRooted_append {directory : Text} (h : isRooted directory = true) (path : Text) :
    isRooted (append directory path) = true := by
  match directory with
  | c :: directory =>
    obtain ⟨rest, hrest⟩ := append_cons c directory path
    rw [hrest]
    exact h

theorem isAnchored_of_isAbsolute {path : Text} (h : isAbsolute path = true) : IsAnchored path := by
  rw [isAbsolute.eq_def, Bool.or_eq_true] at h
  rcases h with h | h
  · exact Or.inl h
  · split at h
    · exact Or.inr ⟨_, _, rfl⟩
    · cases h

section Located

variable {directory : Text} (h : IsDriveRooted directory) (path : Text)

include h

/-- Seen from a directory on a drive, a path that is not absolute is on a drive, and rooted there
unless it leaves the drive of the directory. -/
theorem located_of_isAbsolute_eq (hpath : isAbsolute path = false) :
    ∃ c rest, located directory path = c :: .char ':' :: rest ∧ isSeparator c = false ∧
      (isRooted rest = true ↔ ¬ LeavesDrive directory path) := by
  obtain ⟨letter, separator, base, rfl, hletter, hseparator⟩ := h
  have hbase : isRooted (separator :: base) = true := hseparator
  have hrooted (path : Text) := isRooted_append hbase path
  rcases relative_cases hpath with ⟨hdrive, hunrooted⟩ | ⟨c, rest, rfl, hc, hrest⟩
  · refine ⟨letter, append (separator :: base) path, ?_, isSeparator_of_isAsciiLetter hletter,
      iff_of_true (hrooted path) ?_⟩
    · rw [located, if_neg (Bool.eq_false_iff.mp hpath), join_of_splitDrive_eq _ _ hdrive hunrooted]
    · rintro ⟨c, rest, rfl, -⟩
      rw [splitDrive_colon] at hdrive
      cases (Prod.mk.inj hdrive).1
  · refine ⟨c, _, located_colon _ hc rest, hc, ?_⟩
    rw [leavesDrive_colon_iff hc, splitDrive_colon, hrest, if_neg Bool.false_ne_true]
    split
    · next hsame => exact iff_of_true (hrooted rest) fun hleaves => by simp [hsame] at hleaves
    · next hother => simp [hrest, hother]

theorem isAbsolute_located_iff :
    isAbsolute (located directory path) = true ↔ ¬ LeavesDrive directory path := by
  by_cases hpath : isAbsolute path = true
  · rw [located_of_isAbsolute directory hpath]
    exact iff_of_true hpath fun hleaves =>
      Bool.false_ne_true (hleaves.isAbsolute_eq.symm.trans hpath)
  · obtain ⟨c, rest, hlocated, hc, hrest⟩ :=
      located_of_isAbsolute_eq h path (Bool.not_eq_true _ ▸ hpath)
    rw [hlocated, isAbsolute_colon hc, hrest]

theorem isAnchored_located : IsAnchored (located directory path) := by
  by_cases hpath : isAbsolute path = true
  · rw [located_of_isAbsolute directory hpath]
    exact isAnchored_of_isAbsolute hpath
  · obtain ⟨c, rest, hlocated, -⟩ := located_of_isAbsolute_eq h path (Bool.not_eq_true _ ▸ hpath)
    exact Or.inr ⟨c, rest, hlocated⟩

theorem isRooted_located : isRooted (located directory path) = isRooted path := by
  by_cases hpath : isAbsolute path = true
  · rw [located_of_isAbsolute directory hpath]
  · obtain ⟨c, rest, hlocated, hc, -⟩ :=
      located_of_isAbsolute_eq h path (Bool.not_eq_true _ ▸ hpath)
    have hunrooted : isRooted path = false :=
      Bool.eq_false_iff.mpr fun hrooted => hpath (isAbsolute_of_isRooted hrooted)
    rw [hlocated, hunrooted]
    exact hc

/-- What uncovers a drive is a rooted path, which is seen as it is. -/
theorem uncoversDrive_raiseDrive_located_iff :
    UncoversDrive (raiseDrive (located directory path)) ↔ UncoversDrive path := by
  by_cases hpath : isRooted path = true
  · rw [located_of_isAbsolute directory (isAbsolute_of_isRooted hpath),
      raiseDrive_of_isRooted hpath]
  · have hlocated := isRooted_located h path
    refine iff_of_false (fun huncovers => ?_) fun huncovers => hpath huncovers.isRooted_eq
    rw [← hlocated, ← isRooted_raiseDrive] at hpath
    exact hpath huncovers.isRooted_eq

end Located

end Windows

/-! ## The key of a reported file -/

open Windows

/-- A path without slashes is no reference. -/
theorem FileUri.toPath_of_slash_not_mem {path : Text} (h : Posix.slash ∉ path)
    (flavour : Flavour) : FileUri.toPath flavour path = path := by
  refine FileUri.toPath_of_not_scheme ?_
  rintro ⟨after, rfl⟩
  exact h (List.mem_append_left _ (by decide))

theorem slash_not_mem_resolve (directory reference : Text) :
    Posix.slash ∉ resolve .windows directory reference :=
  slash_not_mem_normalize _

/-- A path without slashes that is seen as it is has its canonical form for its key. -/
theorem resolve_of_located_eq {other path : Text} (hslash : Posix.slash ∉ path)
    (hlocated : located other path = path) :
    resolve .windows other path = canonical .windows path := by
  rw [resolve_windows, FileUri.toPath_of_slash_not_mem hslash, hlocated]

section Resolve

variable {directory : Text} (h : IsDriveRooted directory) (reference : Text)

include h

theorem isAbsolute_resolve_iff :
    isAbsolute (resolve .windows directory reference) = true ↔
      ¬ LeavesDrive directory (FileUri.toPath .windows reference) := by
  rw [resolve_windows, canonical, isAbsolute_normalize (isAnchored_located h _).raiseDrive,
    isAbsolute_raiseDrive, isAbsolute_located_iff h]

theorem raiseDrive_resolve :
    raiseDrive (resolve .windows directory reference) = resolve .windows directory reference :=
  raiseDrive_normalize (isAnchored_located h _).raiseDrive (raiseDrive_raiseDrive _)

/-- A key is canonical unless it uncovers a drive. -/
theorem canonical_resolve_iff :
    canonical .windows (resolve .windows directory reference)
        = resolve .windows directory reference ↔
      ¬ UncoversDrive (FileUri.toPath .windows reference) := by
  rw [canonical, raiseDrive_resolve h, resolve_windows, canonical,
    normalize_normalize_iff (isAnchored_located h _).raiseDrive,
    uncoversDrive_raiseDrive_located_iff h]

/-- A key is its own key from another directory if it is canonical and does not go on from that
directory. -/
theorem resolve_resolve_iff {other : Text} (hother : IsDriveRooted other) :
    resolve .windows other (resolve .windows directory reference)
        = resolve .windows directory reference ↔
      ¬ UncoversDrive (FileUri.toPath .windows reference) ∧
        (LeavesDrive directory (FileUri.toPath .windows reference) →
          LeavesDrive other (FileUri.toPath .windows reference)) := by
  have hcanonical := canonical_resolve_iff h reference
  have habsolute := isAbsolute_resolve_iff h reference
  have hslash := slash_not_mem_resolve directory reference
  by_cases hleaves : LeavesDrive directory (FileUri.toPath .windows reference)
  · have hkey : LeavesDrive other (resolve .windows directory reference) ↔
        LeavesDrive other (FileUri.toPath .windows reference) := by
      rw [resolve_windows, hleaves.located_eq, canonical,
        leavesDrive_normalize_iff hleaves.isAnchored.raiseDrive, leavesDrive_raiseDrive_iff]
    have huncovers : ¬ UncoversDrive (FileUri.toPath .windows reference) := fun huncovers =>
      Bool.false_ne_true (hleaves.isRooted_eq.symm.trans huncovers.isRooted_eq)
    rw [← hkey]
    constructor
    · -- if the key went on from the other directory, it would be absolute there
      intro heq
      have htwice := isAbsolute_resolve_iff hother (resolve .windows directory reference)
      rw [heq, habsolute, FileUri.toPath_of_slash_not_mem hslash] at htwice
      exact ⟨huncovers, fun _ => Classical.not_not.mp fun hstays => htwice.mpr hstays hleaves⟩
    · rintro ⟨-, hstays⟩
      rw [resolve_of_located_eq hslash (hstays hleaves).located_eq]
      exact hcanonical.mpr huncovers
  · rw [resolve_of_located_eq hslash (located_of_isAbsolute other (habsolute.mpr hleaves)),
      hcanonical]
    exact ⟨fun huncovers => ⟨huncovers, fun h => absurd h hleaves⟩, And.left⟩

end Resolve

/-- **The key of a file, seen from a directory on a drive.**  It is absolute unless the reference
leaves the drive of the directory, its drive letter is a capital, it is canonical unless the
reference uncovers a drive, and it is its own key from another directory on a drive unless it is
not canonical or goes on from that directory. -/
theorem resolve_windows_canonical {directory : Text} (h : IsDriveRooted directory)
    (reference : Text) :
    let path := FileUri.toPath .windows reference
    let key := resolve .windows directory reference
    (isAbsolute key = true ↔ ¬ LeavesDrive directory path) ∧
      (∀ letter rest, key = .char letter :: .char ':' :: rest →
        (CodePoint.char letter).isAsciiLetter = true → 'A' ≤ letter ∧ letter ≤ 'Z') ∧
      (canonical .windows key = key ↔ ¬ UncoversDrive path) ∧
      ∀ other, IsDriveRooted other → (resolve .windows other key = key ↔
        ¬ UncoversDrive path ∧ (LeavesDrive directory path → LeavesDrive other path)) := by
  intro path key
  refine ⟨isAbsolute_resolve_iff h reference, fun letter rest hkey => ?_,
    canonical_resolve_iff h reference, fun other => resolve_resolve_iff h reference⟩
  have hraised : raiseDrive key = key := raiseDrive_resolve h reference
  rw [hkey] at hraised
  exact capital_of_raiseDrive_eq hraised

/-- A reference to another drive, and one whose normal form seems to have a drive. -/
theorem resolve_windows_canonical_otherDrive :
    let directory := text "c:\\proj"
    let key := resolve .windows directory (text "d:foo.c")
    let uncovered := resolve .windows directory (text "/../:.")
    (key = text "D:foo.c" ∧ ¬ isAbsolute key = true ∧
        ¬ resolve .windows (text "d:/x") key = key) ∧
      uncovered = text "\\:." ∧ ¬ canonical .windows uncovered = uncovered := by
  have hdirectory : IsDriveRooted (text "c:\\proj") := ⟨_, _, _, rfl, by decide, by decide⟩
  have hother : IsDriveRooted (text "d:/x") := ⟨_, _, _, rfl, by decide, by decide⟩
  have hleaves : LeavesDrive (text "c:\\proj") (text "d:foo.c") :=
    ⟨_, _, rfl, by decide, by decide, by decide⟩
  have hstays : ¬ LeavesDrive (text "d:/x") (text "d:foo.c") := by
    rintro ⟨c, rest, hpath, -, -, hsame⟩
    cases hpath
    exact absurd hsame (by decide)
  have huncovers : UncoversDrive (text "/../:.") := ⟨by decide, by decide, by decide⟩
  obtain ⟨habsolute, -, -, hreported⟩ := resolve_windows_canonical hdirectory (text "d:foo.c")
  obtain ⟨-, -, hcanonical, -⟩ := resolve_windows_canonical hdirectory (text "/../:.")
  exact ⟨⟨by decide, fun hkey => habsolute.mp hkey hleaves,
    fun hkey => hstays (((hreported _ hother).mp hkey).2 hleaves)⟩, by decide,
    fun hkey => hcanonical.mp hkey huncovers⟩

end Path

end DiagnosticRelay
