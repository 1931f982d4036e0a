import DiagnosticRelay.Proofs.Path.NormalForm
import DiagnosticRelay.Proofs.Path.Share
import DiagnosticRelay.Proofs.Path.Stack

/-!
# Normal forms of paths with drives

`Windows.normalize` takes the drive off a path, leaves out the components that do nothing, follows
`..` on a stack and puts backslashes between what is left.  The part behind the drive has its own
name here, `tidied`; the drive matters to it only in so far as it may end at a root.

What follows a drive is in normal form after one round (`tidied_tidied`): its components are read
back as they were written (`components_tidied`), and the stack is settled.  So a normal form stays
as it is whenever it is split where it was put together (`normalize_tidied`).  Whether it is depends
on the drive, and an anchored path is of one of three kinds (`IsAnchored.cases`).

* One code point and a colon are always found again (`normalize_normalize_colon`).
* So is a share (`normalize_share`).
* Where there is no drive, the normal form is a backslash and the entries that the path leads
  through (`normalize_root`).  If the first of them begins with a colon, then the backslash and the
  colon are taken for a drive.  Even so nothing changes, except that a `.` behind that drive is a
  component that does nothing (`tidied_join_iff`).

This last exception is `UncoversDrive`, and by `normalize_normalize_iff` it is the only one.
-/

namespace DiagnosticRelay

namespace Path

namespace Windows

/-! ## What follows the drive -/

/-- The components of a path, without those that do nothing. -/
def components (rest : Text) : List Text :=
  (Text.splitOn backslash rest).filter fun part => part != [] && part != here

/-- The backslash at the front of a rooted path. -/
def rootOf (rest : Text) : Text := if isRooted rest then [backslash] else []

/-- Whether what follows a drive starts at a root. -/
def isClosed (drive rest : Text) : Bool := (drive ++ rootOf rest).getLast? == some backslash

/-- The components that are left when `..` has been followed. -/
def entries (drive rest : Text) : List Text :=
  (Posix.collapse (isClosed drive rest) (components rest)).reverse

/-- The normal form of what follows a drive. -/
def tidied (drive rest : Text) : Text := rootOf rest ++ Text.join [backslash] (entries drive rest)

theorem normalize_eq {path drive rest : Text} (h : splitDrive (backslashed path) = (drive, rest)) :
    normalize path =
      if drive ++ tidied drive rest = [] then here else drive ++ tidied drive rest := by
  have hroot : (if isRooted rest = true then drive ++ [backslash] else drive)
      = drive ++ rootOf rest := by
    rw [rootOf]
    split
    · rfl
    · rw [List.append_nil]
  have hwhole : drive ++ rootOf rest ++ Text.join [backslash]
      (Posix.collapse (isClosed drive rest) (components rest)).reverse
        = drive ++ tidied drive rest := by
    rw [tidied, entries, List.append_assoc]
  rw [normalize, h]
  simp only [hroot]
  rw [isClosed, components] at hwhole
  rw [hwhole]
  split
  · next heq => rw [if_pos heq]
  · next hne => rw [if_neg hne]

theorem normalize_of_splitDrive {path drive rest : Text}
    (h : splitDrive (backslashed path) = (drive, rest)) (hne : drive ++ tidied drive rest ≠ []) :
    normalize path = drive ++ tidied drive rest :=
  (normalize_eq h).trans (if_neg hne)

/-- A component of a normal form. -/
structure IsEntry (part : Text) : Prop where
  nonempty : part ≠ []
  ne_here : part ≠ here
  backslash_not_mem : backslash ∉ part
  slash_not_mem : Posix.slash ∉ part

theorem isEntry_of_mem_components {rest part : Text} (h : Posix.slash ∉ rest)
    (hpart : part ∈ components rest) : IsEntry part := by
  obtain ⟨hpiece, hkept⟩ := List.mem_filter.mp hpart
  rw [Bool.and_eq_true, bne_iff_ne, bne_iff_ne] at hkept
  exact ⟨hkept.1, hkept.2, Text.not_mem_of_mem_splitOn hpiece,
    fun hslash => h (Text.mem_of_mem_splitOn hpiece hslash)⟩

theorem isEntry_of_mem_entries {drive rest part : Text} (h : Posix.slash ∉ rest)
    (hpart : part ∈ entries drive rest) : IsEntry part :=
  isEntry_of_mem_components h (Posix.mem_of_mem_collapse (List.mem_reverse.mp hpart))

theorem IsEntry.isRooted_append {part : Text} (h : IsEntry part) (after : Text) :
    isRooted (part ++ after) = false := by
  obtain ⟨c, rest, rfl⟩ := List.exists_cons_of_ne_nil h.nonempty
  have hslash : c ≠ Posix.slash := fun hc => h.slash_not_mem (hc ▸ List.mem_cons_self ..)
  have hback : c ≠ backslash := fun hc => h.backslash_not_mem (hc ▸ List.mem_cons_self ..)
  exact Bool.or_eq_false_iff.mpr ⟨beq_false_of_ne hback, beq_false_of_ne hslash⟩

theorem components_join_cons {part : Text} {rest : List Text}
    (h : ∀ piece ∈ part :: rest, backslash ∉ piece) :
    components (Text.join [backslash] (part :: rest))
      = (part :: rest).filter fun part => part != [] && part != here := by
  rw [components, Text.splitOn_join (List.cons_ne_nil part rest) h]

section Join

variable {parts : List Text} (h : ∀ part ∈ parts, IsEntry part)

include h

theorem isRooted_join : isRooted (Text.join [backslash] parts) = false := by
  match parts with
  | [] => rfl
  | [part] =>
    rw [Text.join_singleton, ← List.append_nil part]
    exact (h part (List.mem_singleton.mpr rfl)).isRooted_append []
  | part :: next :: rest =>
    rw [Text.join, List.append_assoc]
    exact (h part (List.mem_cons_self ..)).isRooted_append _

theorem slash_not_mem_join : Posix.slash ∉ Text.join [backslash] parts := by
  induction parts with
  | nil => exact List.not_mem_nil
  | cons part rest ih =>
    rw [List.forall_mem_cons] at h
    cases rest with
    | nil => exact h.1.slash_not_mem
    | cons next rest =>
      rw [Text.join, List.mem_append, List.mem_append, not_or, not_or]
      exact ⟨⟨h.1.slash_not_mem, by decide⟩, ih h.2⟩

theorem filter_of_isEntry : parts.filter (fun part => part != [] && part != here) = parts := by
  refine List.filter_eq_self.mpr fun part hpart => ?_
  rw [Bool.and_eq_true, bne_iff_ne, bne_iff_ne]
  exact ⟨(h part hpart).nonempty, (h part hpart).ne_here⟩

theorem components_join : components (Text.join [backslash] parts) = parts := by
  cases parts with
  | nil => rfl
  | cons part rest =>
    rw [components_join_cons fun part hpart => (h part hpart).backslash_not_mem,
      filter_of_isEntry h]

end Join

/-- A backslash at the front does not matter. -/
theorem components_cons_backslash (rest : Text) :
    components (backslash :: rest) = components rest := by
  rw [components, Text.splitOn_cons_self, List.filter_cons_of_neg (by simp)]
  rfl

theorem components_rootOf_append (rest after : Text) :
    components (rootOf rest ++ after) = components after := by
  rw [rootOf]
  split
  · exact components_cons_backslash after
  · rfl

theorem slash_not_mem_rootOf (rest : Text) : Posix.slash ∉ rootOf rest := by
  rw [rootOf]
  split
  · decide
  · exact List.not_mem_nil

section Tidied

variable {rest : Text} (h : Posix.slash ∉ rest) (drive : Text)

include h

theorem slash_not_mem_tidied : Posix.slash ∉ tidied drive rest := by
  rw [tidied, List.mem_append, not_or]
  exact ⟨slash_not_mem_rootOf rest,
    slash_not_mem_join fun _ hpart => isEntry_of_mem_entries h hpart⟩

theorem isRooted_tidied : isRooted (tidied drive rest) = isRooted rest := by
  rw [tidied, rootOf]
  split
  · next hrooted =>
    rw [hrooted]
    rfl
  · next hrooted =>
    rw [List.nil_append, isRooted_join fun _ hpart => isEntry_of_mem_entries h hpart,
      Bool.eq_false_iff.mpr hrooted]

theorem components_tidied : components (tidied drive rest) = entries drive rest := by
  rw [tidied, components_rootOf_append,
    components_join fun _ hpart => isEntry_of_mem_entries h hpart]

/-- What follows a drive is in normal form after one round. -/
theorem tidied_tidied : tidied drive (tidied drive rest) = tidied drive rest := by
  have hroot : rootOf (tidied drive rest) = rootOf rest := by
    rw [rootOf, isRooted_tidied h, rootOf]
  have hclosed : isClosed drive (tidied drive rest) = isClosed drive rest := by
    rw [isClosed, hroot, isClosed]
  have hentries : entries drive (tidied drive rest) = entries drive rest := by
    rw [entries, hclosed, components_tidied h, entries, Posix.isSettled_collapse]
  rw [tidied, hroot, hentries, ← tidied]

end Tidied

/-- A path is in normal form if its drive is found again before what follows it. -/
theorem normalize_tidied (drive rest : Text) (hdrive : Posix.slash ∉ drive)
    (hrest : Posix.slash ∉ rest) (hne : drive ++ tidied drive rest ≠ [])
    (hsplit : splitDrive (drive ++ tidied drive rest) = (drive, tidied drive rest)) :
    normalize (drive ++ tidied drive rest) = drive ++ tidied drive rest := by
  have hslash : Posix.slash ∉ drive ++ tidied drive rest := by
    rw [List.mem_append, not_or]
    exact ⟨hdrive, slash_not_mem_tidied hrest drive⟩
  have htidied := tidied_tidied hrest drive
  rw [normalize_of_splitDrive ((backslashed_of_not_mem hslash).symm ▸ hsplit)
    (by rwa [htidied]), htidied]

/-- A normal form has no slashes. -/
theorem slash_not_mem_normalize (path : Text) : Posix.slash ∉ normalize path := by
  have hslash := slash_not_mem_backslashed path
  rw [← splitDrive_append (backslashed path), List.mem_append, not_or] at hslash
  rw [normalize_eq (Prod.eta (splitDrive (backslashed path))).symm]
  by_cases hempty : (splitDrive (backslashed path)).1 ++ tidied (splitDrive (backslashed path)).1
      (splitDrive (backslashed path)).2 = []
  · rw [if_pos hempty]
    decide
  · rw [if_neg hempty, List.mem_append, not_or]
    exact ⟨hslash.1, slash_not_mem_tidied hslash.2 _⟩

/-! ## The three kinds of anchored paths -/

/-- A path that has a drive or starts at a root. -/
def IsAnchored (path : Text) : Prop :=
  isRooted path = true ∨ ∃ c rest, path = c :: .char ':' :: rest

/-- The drive of an anchored path is one code point and a colon, or that of a share, or there is
none. -/
theorem IsAnchored.cases {path : Text} (h : IsAnchored path) :
    (∃ c rest, path = c :: .char ':' :: rest) ∨
      (∃ c d rest, path = c :: d :: rest ∧ isSeparator c = true ∧ isSeparator d = true) ∨
      ∃ c rest, path = c :: rest ∧ isSeparator c = true ∧ isRooted rest = false ∧
        rest.head? ≠ some (.char ':') := by
  rcases h with hrooted | hcolon
  · match path with
    | [c] => exact Or.inr (Or.inr ⟨c, [], rfl, hrooted, rfl, by simp⟩)
    | c :: d :: rest =>
      by_cases hcolon : d = .char ':'
      · exact Or.inl ⟨c, rest, by rw [hcolon]⟩
      · by_cases hd : isSeparator d = true
        · exact Or.inr (Or.inl ⟨c, d, rest, rfl, hrooted, hd⟩)
        · exact Or.inr (Or.inr ⟨c, d :: rest, rfl, hrooted, Bool.eq_false_iff.mpr hd,
            by simpa using hcolon⟩)
  · exact Or.inl hcolon

/-- The normal form of a path on a drive of one code point and a colon. -/
theorem normalize_colon (c : CodePoint) (rest : Text) :
    normalize (c :: .char ':' :: rest)
      = backslashedPoint c :: .char ':' ::
        tidied [backslashedPoint c, .char ':'] (backslashed rest) := by
  have hpath : backslashed (c :: .char ':' :: rest)
      = backslashedPoint c :: .char ':' :: backslashed rest := rfl
  exact normalize_of_splitDrive (hpath ▸ splitDrive_colon _ _) (List.cons_ne_nil _ _)

theorem normalize_normalize_colon (c : CodePoint) (rest : Text) :
    normalize (normalize (c :: .char ':' :: rest)) = normalize (c :: .char ':' :: rest) := by
  rw [normalize_colon]
  refine normalize_tidied [backslashedPoint c, .char ':'] (backslashed rest) ?_
    (slash_not_mem_backslashed rest) (List.cons_ne_nil _ _) (splitDrive_colon _ _)
  rw [List.mem_cons, not_or]
  exact ⟨slash_ne_backslashedPoint c, by decide⟩

@[simp] theorem tidied_nil (drive : Text) : tidied drive [] = [] := rfl

/-- The normal form of a path to a share begins as the path does, and stays as it is. -/
theorem normalize_share {c d : CodePoint} {rest : Text} (hc : isSeparator c = true)
    (hd : isSeparator d = true) :
    (∃ front, normalize (c :: d :: rest) = backslash :: backslash :: front) ∧
      normalize (normalize (c :: d :: rest)) = normalize (c :: d :: rest) := by
  have hpath : backslashed (c :: d :: rest) = backslash :: backslash :: backslashed rest := by
    rw [backslashed_cons, backslashed_cons, backslashedPoint_of_isSeparator hc,
      backslashedPoint_of_isSeparator hd]
  have hslash := slash_not_mem_backslashed (c :: d :: rest)
  rcases splitDrive_share_cases hslash hpath with
    hsplit | ⟨drive, after, hsplit, ⟨front, rfl⟩, hdrive, hafter, hstable⟩
  · have hnormal := normalize_of_splitDrive hsplit (by rw [hpath]; exact List.cons_ne_nil _ _)
    rw [tidied_nil, List.append_nil] at hnormal
    rw [hnormal]
    refine ⟨⟨_, hpath⟩, ?_⟩
    have hfixed := normalize_tidied (backslashed (c :: d :: rest)) [] hslash
      List.not_mem_nil (by rw [hpath]; exact List.cons_ne_nil _ _)
      (by rw [tidied_nil, List.append_nil, hsplit])
    rwa [tidied_nil, List.append_nil] at hfixed
  · have hafter : Posix.slash ∉ backslash :: after := by
      rw [List.mem_cons, not_or]
      exact ⟨by decide, hafter⟩
    have hnormal := normalize_of_splitDrive hsplit (List.cons_ne_nil _ _)
    rw [hnormal]
    refine ⟨⟨_, rfl⟩, normalize_tidied _ _ hdrive hafter (List.cons_ne_nil _ _) ?_⟩
    exact hstable _ (slash_not_mem_join fun _ hpart => isEntry_of_mem_entries hafter hpart)

/-! ## Paths from a root without a drive -/

/-- A path that begins with one separator and no colon behind it has no drive. -/
theorem splitDrive_cons {c : CodePoint} {rest : Text} (hrest : isRooted rest = false)
    (hcolon : rest.head? ≠ some (.char ':')) : splitDrive (c :: rest) = ([], c :: rest) := by
  cases rest with
  | nil => rfl
  | cons d rest =>
    have hd : isSeparator d = false := hrest
    have hne : d ≠ .char ':' := fun h => hcolon (by rw [h]; rfl)
    simp only [splitDrive, hd, Bool.and_false, Bool.false_eq_true, if_false, hne]

/-- The entries that a path leads through from its root. -/
def walk (path : Text) : List Text :=
  (Text.splitOn backslash (backslashed path)).foldl Posix.enter []

theorem isComponent_of_mem_walk {path entry : Text} (h : entry ∈ walk path) :
    Posix.IsComponent entry := by
  refine Posix.isComponent_of_mem_foldl_enter (fun part hpart hslash => ?_) (by simp) entry h
  exact slash_not_mem_backslashed path (Text.mem_of_mem_splitOn hpart hslash)

section Rooted

variable {path : Text} (h : isRooted path = true)

include h

theorem entries_of_isRooted : entries [] (backslashed path) = walk path := by
  have hclosed : isClosed [] (backslashed path) = true := by
    rw [isClosed, rootOf, isRooted_backslashed, h]
    rfl
  rw [entries, hclosed]
  exact Posix.reverse_foldl_push List.not_mem_nil _

theorem isEntry_of_mem_walk {entry : Text} (hentry : entry ∈ walk path) : IsEntry entry := by
  rw [← entries_of_isRooted h] at hentry
  exact isEntry_of_mem_entries (slash_not_mem_backslashed path) hentry

theorem tidied_of_isRooted :
    tidied [] (backslashed path) = backslash :: Text.join [backslash] (walk path) := by
  have hroot : rootOf (backslashed path) = [backslash] :=
    if_pos ((isRooted_backslashed path).trans h)
  rw [tidied, hroot, entries_of_isRooted h]
  rfl

end Rooted

theorem splitDrive_backslashed_root {c : CodePoint} {rest : Text} (hrest : isRooted rest = false)
    (hcolon : rest.head? ≠ some (.char ':')) :
    splitDrive (backslashed (c :: rest)) = ([], backslashed (c :: rest)) := by
  refine splitDrive_cons ((isRooted_backslashed rest).trans hrest) fun hhead => hcolon ?_
  cases rest with
  | nil => cases hhead
  | cons d rest =>
    have hd : backslashedPoint d = .char ':' := Option.some.inj hhead
    rw [backslashedPoint] at hd
    split at hd
    · cases hd
    · rw [hd]
      rfl

/-- A path from a root without a drive is normalised to where it leads. -/
theorem normalize_root {c : CodePoint} {rest : Text} (hc : isSeparator c = true)
    (hrest : isRooted rest = false) (hcolon : rest.head? ≠ some (.char ':')) :
    normalize (c :: rest) = backslash :: Text.join [backslash] (walk (c :: rest)) := by
  have hrooted : isRooted (c :: rest) = true := hc
  have htidied := tidied_of_isRooted hrooted
  rw [normalize_of_splitDrive (splitDrive_backslashed_root hrest hcolon)
    (by rw [htidied]; exact List.cons_ne_nil _ _), htidied]
  rfl

/-! ## Where a normal form is not in normal form -/

/-- The first component of a path starts with its first code point. -/
theorem join_cons_cons (c : CodePoint) (part : Text) (rest : List Text) :
    Text.join [backslash] ((c :: part) :: rest) = c :: Text.join [backslash] (part :: rest) := by
  cases rest <;> rfl

section Behind

variable {drive part : Text} {rest : List Text} (hdrive : drive.getLast? ≠ some backslash)
  (hrest : ∀ entry ∈ rest, IsEntry entry) (habove : above ∉ rest)

include hrest habove

/-- Behind a drive, entries from a root stay as they are. -/
theorem tidied_cons_backslash_join :
    tidied drive (backslash :: Text.join [backslash] rest)
      = backslash :: Text.join [backslash] rest := by
  have hroot : rootOf (backslash :: Text.join [backslash] rest) = [backslash] := rfl
  have hclosed : isClosed drive (backslash :: Text.join [backslash] rest) = true := by
    rw [isClosed, hroot, List.getLast?_append]
    rfl
  rw [tidied, entries, hroot, hclosed, components_cons_backslash, components_join hrest,
    Posix.collapse, Posix.foldl_push_of_not_mem true [] habove, List.append_nil,
    List.reverse_reverse]
  rfl

/-- Behind a drive without a root, a `.` at the front is lost. -/
theorem tidied_join_here :
    tidied drive (Text.join [backslash] (here :: rest)) = Text.join [backslash] rest := by
  have hparts : ∀ piece ∈ here :: rest, backslash ∉ piece :=
    List.forall_mem_cons.mpr ⟨by decide, fun entry hentry => (hrest entry hentry).backslash_not_mem⟩
  have hroot : rootOf (Text.join [backslash] (here :: rest)) = [] := by
    rw [show here = [CodePoint.char '.'] from rfl, join_cons_cons]
    rfl
  rw [tidied, entries, hroot, components_join_cons hparts, List.filter_cons_of_neg (by decide),
    filter_of_isEntry hrest, Posix.collapse, Posix.foldl_push_of_not_mem _ [] habove,
    List.append_nil, List.reverse_reverse]
  rfl

include hdrive

/-- Behind a drive without a root, the entries stay as they are, and a `..` at the front does. -/
theorem tidied_join_of_isEntry (hpart : IsEntry part) :
    tidied drive (Text.join [backslash] (part :: rest)) = Text.join [backslash] (part :: rest) := by
  have hparts : ∀ entry ∈ part :: rest, IsEntry entry := List.forall_mem_cons.mpr ⟨hpart, hrest⟩
  have hroot : rootOf (Text.join [backslash] (part :: rest)) = [] := by
    rw [rootOf, isRooted_join hparts, if_neg Bool.false_ne_true]
  have hclosed : isClosed drive (Text.join [backslash] (part :: rest)) = false := by
    rw [isClosed, hroot, List.append_nil]
    exact beq_false_of_ne hdrive
  have hpush : Posix.push false [] part = [part] := by
    rw [Posix.push.eq_def]
    split
    · next heq => rw [heq]; rfl
    · rfl
  rw [tidied, entries, hroot, hclosed, components_join hparts, Posix.collapse, List.foldl_cons,
    hpush, Posix.foldl_push_of_not_mem false [part] habove, List.reverse_append,
    List.reverse_reverse]
  rfl

/-- Behind a drive without a root, only a `.` at the front does not stay. -/
theorem tidied_join_iff (hback : backslash ∉ part) (hslash : Posix.slash ∉ part) :
    tidied drive (Text.join [backslash] (part :: rest)) = Text.join [backslash] (part :: rest) ↔
      part ≠ here := by
  by_cases hempty : part = []
  · subst hempty
    refine iff_of_true ?_ (by decide)
    cases rest with
    | nil => rfl
    | cons next rest => exact tidied_cons_backslash_join hrest habove
  · by_cases hhere : part = here
    · subst hhere
      refine iff_of_false ?_ (not_not_intro rfl)
      rw [tidied_join_here hrest habove]
      intro heq
      have hlength := congrArg List.length heq
      cases rest with
      | nil => cases hlength
      | cons next rest =>
        rw [Text.join, List.length_append, List.length_append, List.length_singleton] at hlength
        omega
    · exact iff_of_true
        (tidied_join_of_isEntry hdrive hrest habove ⟨hempty, hhere, hback, hslash⟩) hhere

end Behind

/-- The entry that is read as a drive and a `.` when it stands behind the first backslash. -/
def colonHere : Text := text ":."

/-- A path from a root without a drive whose normal form seems to have one: the drive of
`\:.` would be its first two code points. -/
structure UncoversDrive (path : Text) : Prop where
  isRooted_eq : isRooted path = true
  splitDrive_eq : splitDrive path = ([], path)
  head?_walk : (walk path).head? = some colonHere

section Root

variable {c : CodePoint} {rest : Text} (hc : isSeparator c = true) (hrest : isRooted rest = false)
  (hcolon : rest.head? ≠ some (.char ':'))

include hc hrest hcolon

/-- Without a colon behind the backslash, the normal form has no drive, either. -/
theorem normalize_normalize_of_head?
    (hhead : (Text.join [backslash] (walk (c :: rest))).head? ≠ some (.char ':')) :
    normalize (normalize (c :: rest)) = normalize (c :: rest) := by
  have hroot : isRooted (c :: rest) = true := hc
  have htidied := tidied_of_isRooted hroot
  have hunrooted := isRooted_join fun entry h => isEntry_of_mem_walk hroot h
  have hfixed := normalize_tidied [] (backslashed (c :: rest)) List.not_mem_nil
    (slash_not_mem_backslashed _) (by rw [htidied]; exact List.cons_ne_nil _ _)
    (by rw [htidied]; exact splitDrive_cons hunrooted hhead)
  rw [htidied] at hfixed
  rw [normalize_root hc hrest hcolon]
  exact hfixed

/-- With a colon behind the backslash, the two are taken for a drive. -/
theorem normalize_normalize_of_walk_eq {part : Text} {others : List Text}
    (hwalk : walk (c :: rest) = (.char ':' :: part) :: others) :
    normalize (normalize (c :: rest)) = normalize (c :: rest) ↔ part ≠ here := by
  have hroot : isRooted (c :: rest) = true := hc
  have hentry : ∀ entry ∈ (.char ':' :: part) :: others, IsEntry entry := fun entry h =>
    isEntry_of_mem_walk hroot (hwalk ▸ h)
  have habove : above ∉ (.char ':' :: part) :: others := fun h =>
    (isComponent_of_mem_walk (hwalk ▸ h)).ne_above rfl
  have hslash := slash_not_mem_join hentry
  rw [join_cons_cons, List.mem_cons, not_or] at hslash
  obtain ⟨hfirst, hothers⟩ := List.forall_mem_cons.mp hentry
  have hback := hfirst.backslash_not_mem
  have hpart := hfirst.slash_not_mem
  rw [List.mem_cons, not_or] at hback hpart habove
  have hdrive : [backslash, CodePoint.char ':'].getLast? ≠ some backslash := by decide
  have hpoint : backslashedPoint backslash = backslash := rfl
  rw [normalize_root hc hrest hcolon, hwalk, join_cons_cons, normalize_colon, hpoint,
    backslashed_of_not_mem hslash.2, List.cons.injEq, List.cons.injEq, and_iff_right rfl,
    and_iff_right rfl, tidied_join_iff hdrive hothers habove.2 hback.2 hpart.2]

theorem normalize_normalize_root_iff :
    normalize (normalize (c :: rest)) = normalize (c :: rest) ↔
      (walk (c :: rest)).head? ≠ some colonHere := by
  have hroot : isRooted (c :: rest) = true := hc
  cases hwalk : walk (c :: rest) with
  | nil =>
    refine iff_of_true (normalize_normalize_of_head? hc hrest hcolon ?_) (by simp)
    rw [hwalk]
    simp
  | cons entry others =>
    have hentry : IsEntry entry := isEntry_of_mem_walk hroot (hwalk ▸ List.mem_cons_self ..)
    obtain ⟨d, part, rfl⟩ := List.exists_cons_of_ne_nil hentry.nonempty
    rw [List.head?_cons, Ne, Option.some.injEq, show colonHere = .char ':' :: here from rfl,
      List.cons.injEq]
    by_cases hd : d = .char ':'
    · subst hd
      rw [normalize_normalize_of_walk_eq hc hrest hcolon hwalk, and_iff_right rfl]
    · refine iff_of_true (normalize_normalize_of_head? hc hrest hcolon ?_) fun h => hd h.1
      rw [hwalk, join_cons_cons, List.head?_cons, Ne, Option.some.injEq]
      exact hd

end Root

/-- The normal form of a path that begins with a separator begins with a backslash. -/
theorem exists_normalize_eq_of_isRooted {path : Text} (h : isRooted path = true) :
    ∃ front, normalize path = backslash :: front := by
  rcases IsAnchored.cases (Or.inl h) with
    ⟨c, rest, rfl⟩ | ⟨c, d, rest, rfl, hc, hd⟩ | ⟨c, rest, rfl, hc, hrest, hcolon⟩
  · rw [normalize_colon, backslashedPoint_of_isSeparator h]
    exact ⟨_, rfl⟩
  · obtain ⟨front, hfront⟩ := (normalize_share hc hd).1
    exact ⟨_, hfront⟩
  · exact ⟨_, normalize_root hc hrest hcolon⟩

theorem splitDrive_fst_ne_nil {c d : CodePoint} {rest : Text} (hc : isSeparator c = true)
    (hd : isSeparator d = true) : (splitDrive (c :: d :: rest)).1 ≠ [] := by
  have hlength : shareLength (backslashed (c :: d :: rest)) ≠ 0 := by
    rcases shareLength_cases (backslashed (c :: d :: rest)) with h | ⟨h, -⟩
    · rw [h]
      exact Nat.succ_ne_zero _
    · omega
  obtain ⟨n, hn⟩ := Nat.exists_eq_succ_of_ne_zero hlength
  simp [splitDrive, hc, hd, hn]

/-- **Normalising an anchored path twice is normalising it once**, unless the normal form uncovers
a drive. -/
theorem normalize_normalize_iff {path : Text} (h : IsAnchored path) :
    normalize (normalize path) = normalize path ↔ ¬ UncoversDrive path := by
  rcases h.cases with
    ⟨c, rest, rfl⟩ | ⟨c, d, rest, rfl, hc, hd⟩ | ⟨c, rest, rfl, hc, hrest, hcolon⟩
  · refine iff_of_true (normalize_normalize_colon c rest) fun huncovers => ?_
    have hsplit := huncovers.splitDrive_eq
    rw [splitDrive_colon] at hsplit
    cases (Prod.mk.inj hsplit).1
  · refine iff_of_true (normalize_share hc hd).2 fun huncovers => ?_
    exact splitDrive_fst_ne_nil hc hd (congrArg Prod.fst huncovers.splitDrive_eq)
  · rw [normalize_normalize_root_iff hc hrest hcolon]
    exact not_congr ⟨fun hhead => ⟨hc, splitDrive_cons hrest hcolon, hhead⟩,
      UncoversDrive.head?_walk⟩

end Windows

end Path

end DiagnosticRelay
