import DiagnosticRelay.Path.Reported
import DiagnosticRelay.Proofs.Path.PercentEncoding

/-!
# Drive letters

One file is reported with a small drive letter by one checker and with a capital by another, as a
path or as a reference.  Its key is the same: `resolve_letterCase`.

The letter is raised once, at the very end, after the path has been seen from the directory.  So
what has to be shown is that the two spellings come out of `Windows.join` alike but for the letter.
`located_colon` gives the joined path in one equation, in which the letter stands at the front and
is otherwise only compared.  The comparison of drives does not see the case
(`sameDrive_capital_left`, `sameDrive_capital_right`), and the letter at the front is raised
(`raiseDrive_located_capital`, `raiseDrive_located_of_capital`).

The directory's own letter reaches the key only where the path has no drive of its own
(`join_of_splitDrive_eq`); with a drive, the path brings its own spelling even when the two drives
are the same.
-/

namespace DiagnosticRelay

namespace Path

namespace Windows

/-! ## Separators and letters -/

@[simp] theorem isSeparator_backslash : isSeparator backslash = true := rfl

theorem isSeparator_of_isAsciiLetter {c : CodePoint} (h : c.isAsciiLetter = true) :
    isSeparator c = false := by
  rw [Bool.eq_false_iff]
  intro hc
  rcases Bool.or_eq_true .. ▸ hc with hc | hc <;> rw [beq_iff_eq.mp hc] at h <;> cases h

theorem splitDrive_colon (c : CodePoint) (rest : Text) :
    splitDrive (c :: .char ':' :: rest) = ([c, .char ':'], rest) := by
  have hcolon : isSeparator (.char ':') = false := rfl
  simp only [splitDrive, hcolon, Bool.and_false, if_true, if_false, Bool.false_eq_true]

theorem isAbsolute_colon {c : CodePoint} (h : isSeparator c = false) (rest : Text) :
    isAbsolute (c :: .char ':' :: rest) = isRooted rest := by
  rw [isAbsolute, isRooted, h, Bool.false_or]

theorem isAbsolute_of_isRooted {path : Text} (h : isRooted path = true) :
    isAbsolute path = true := by
  rw [isAbsolute.eq_def, h, Bool.true_or]

/-- A path that is not absolute has no drive, or one of a colon with something behind it that is not
rooted. -/
theorem relative_cases {path : Text} (h : isAbsolute path = false) :
    (splitDrive path = ([], path) ∧ isRooted path = false) ∨
      ∃ c rest, path = c :: .char ':' :: rest ∧ isSeparator c = false ∧ isRooted rest = false := by
  have hrooted : isRooted path = false := by
    rw [isAbsolute.eq_def, Bool.or_eq_false_iff] at h
    exact h.1
  match path with
  | [] => exact Or.inl ⟨rfl, hrooted⟩
  | [_] => exact Or.inl ⟨rfl, hrooted⟩
  | c :: d :: rest =>
    have hc : isSeparator c = false := hrooted
    by_cases hd : d = .char ':'
    · subst hd
      exact Or.inr ⟨c, rest, rfl, hc, by rwa [isAbsolute_colon hc] at h⟩
    · refine Or.inl ⟨?_, hrooted⟩
      simp only [splitDrive, hc, Bool.false_and, if_false, Bool.false_eq_true, hd]

/-! ## Joined paths -/

theorem withDrive_colon (c : CodePoint) (path : Text) :
    withDrive [c, .char ':'] path = c :: .char ':' :: path := by
  cases path with
  | nil => rfl
  | cons d path => simp [withDrive]

theorem sameDrive_self (drive : Text) : sameDrive drive drive = true := beq_self_eq_true _

/-- A path on a drive keeps its drive as it is spelled, and goes on from the directory only if that
lies on the same drive. -/
theorem join_colon (directory : Text) (c : CodePoint) {rest : Text} (h : isRooted rest = false) :
    join directory (c :: .char ':' :: rest) = c :: .char ':' ::
      if sameDrive [c, .char ':'] (splitDrive directory).1 then
        append (splitDrive directory).2 rest
      else rest := by
  rw [join, splitDrive_colon]
  simp only [h, Bool.false_eq_true, if_false, List.isEmpty_cons, Bool.false_or, beq_iff_eq]
  split
  · next heq => rw [← heq, sameDrive_self, if_pos rfl, withDrive_colon]
  · split
    · exact withDrive_colon c _
    · exact withDrive_colon c _

/-- A path without a drive goes on from the directory. -/
theorem join_of_splitDrive_eq {path : Text} (c : CodePoint) (base : Text)
    (hdrive : splitDrive path = ([], path)) (h : isRooted path = false) :
    join (c :: .char ':' :: base) path = c :: .char ':' :: append base path := by
  rw [join, splitDrive_colon, hdrive]
  simp only [h, Bool.false_eq_true, if_false, List.isEmpty_nil, Bool.true_or, if_true,
    withDrive_colon]

theorem append_cons (c : CodePoint) (directory path : Text) :
    ∃ rest, append (c :: directory) path = c :: rest := by
  rw [append]
  split
  · next h => simp at h
  · split
    · exact ⟨_, List.cons_append⟩
    · exact ⟨_, List.cons_append⟩

/-- A path as it is seen from a directory: an absolute path stays as it is. -/
def located (directory path : Text) : Text :=
  if isAbsolute path then path else join directory path

theorem located_of_isAbsolute (directory : Text) {path : Text} (h : isAbsolute path = true) :
    located directory path = path := if_pos h

theorem located_colon (directory : Text) {c : CodePoint} (hc : isSeparator c = false)
    (rest : Text) :
    located directory (c :: .char ':' :: rest) = c :: .char ':' ::
      if isRooted rest then rest
      else if sameDrive [c, .char ':'] (splitDrive directory).1 then
        append (splitDrive directory).2 rest
      else rest := by
  rw [located, isAbsolute_colon hc]
  split
  · rfl
  · next h => exact join_colon directory c (Bool.not_eq_true _ ▸ h)

/-! ## The case of a drive letter -/

section Letter

variable {c : Char} (hlow : 'a' ≤ c) (hhigh : c ≤ 'z')

include hlow hhigh

/-- What there is to know about a small letter and its capital. -/
theorem smallLetter_facts :
    (CodePoint.char c).isAsciiLetter = true ∧ (CodePoint.char c.toUpper).isAsciiLetter = true ∧
      ¬ ('a' ≤ c.toUpper ∧ c.toUpper ≤ 'z') ∧
      Text.lowerCase [.char c.toUpper, .char ':'] = Text.lowerCase [.char c, .char ':'] := by
  have hcode (n : Fin 26) :
      let c := Char.ofNat (97 + n)
      (CodePoint.char c).isAsciiLetter = true ∧ (CodePoint.char c.toUpper).isAsciiLetter = true ∧
        ¬ ('a' ≤ c.toUpper ∧ c.toUpper ≤ 'z') ∧
        Text.lowerCase [.char c.toUpper, .char ':'] = Text.lowerCase [.char c, .char ':'] := by
    revert n
    decide
  have hlow : 97 ≤ c.toNat := hlow
  have hhigh : c.toNat ≤ 122 := hhigh
  have hc := hcode ⟨c.toNat - 97, by omega⟩
  rwa [Nat.add_sub_cancel' hlow, Char.ofNat_toNat] at hc

theorem raiseDrive_small (rest : Text) :
    raiseDrive (.char c :: .char ':' :: rest) = .char c.toUpper :: .char ':' :: rest :=
  if_pos ⟨hlow, hhigh⟩

theorem raiseDrive_capital (rest : Text) :
    raiseDrive (.char c.toUpper :: .char ':' :: rest) = .char c.toUpper :: .char ':' :: rest :=
  if_neg (smallLetter_facts hlow hhigh).2.2.1

theorem sameDrive_capital_left (drive : Text) :
    sameDrive [.char c.toUpper, .char ':'] drive = sameDrive [.char c, .char ':'] drive := by
  rw [sameDrive, sameDrive, (smallLetter_facts hlow hhigh).2.2.2]

theorem sameDrive_capital_right (drive : Text) :
    sameDrive drive [.char c.toUpper, .char ':'] = sameDrive drive [.char c, .char ':'] := by
  rw [sameDrive, sameDrive, (smallLetter_facts hlow hhigh).2.2.2]

/-- The drive letter of a path may be in either case. -/
theorem raiseDrive_located_capital (directory rest : Text) :
    raiseDrive (located directory (.char c.toUpper :: .char ':' :: rest))
      = raiseDrive (located directory (.char c :: .char ':' :: rest)) := by
  obtain ⟨hsmall, hcapital, -⟩ := smallLetter_facts hlow hhigh
  rw [located_colon directory (isSeparator_of_isAsciiLetter hsmall),
    located_colon directory (isSeparator_of_isAsciiLetter hcapital),
    sameDrive_capital_left hlow hhigh, raiseDrive_capital hlow hhigh, raiseDrive_small hlow hhigh]

/-- The drive letter of a directory may be in either case. -/
theorem raiseDrive_located_of_capital (base path : Text) :
    raiseDrive (located (.char c.toUpper :: .char ':' :: base) path)
      = raiseDrive (located (.char c :: .char ':' :: base) path) := by
  rw [located, located]
  split
  · rfl
  · next habsolute =>
    rcases relative_cases (Bool.not_eq_true _ ▸ habsolute) with
      ⟨hdrive, hrooted⟩ | ⟨d, rest, rfl, -, hrooted⟩
    · rw [join_of_splitDrive_eq _ base hdrive hrooted, join_of_splitDrive_eq _ base hdrive hrooted,
        raiseDrive_capital hlow hhigh, raiseDrive_small hlow hhigh]
    · -- a path on a drive brings its own letter, and only the comparison sees that of the directory
      rw [join_colon _ d hrooted, join_colon _ d hrooted, splitDrive_colon, splitDrive_colon,
        sameDrive_capital_right hlow hhigh]

end Letter

end Windows

namespace FileUri

/-- A text with a colon in the second place has no scheme of a file. -/
theorem toPath_colon (flavour : Flavour) (c : CodePoint) (rest : Text) :
    toPath flavour (c :: .char ':' :: rest) = c :: .char ':' :: rest := by
  refine toPath_of_not_scheme ?_
  rintro ⟨after, hafter⟩
  cases hafter

/-- The slash before a drive letter belongs to the reference. -/
theorem toPath_scheme_drive {letter : CodePoint} {rest : Text}
    (hletter : letter.isAsciiLetter = true) (hrest : .char '%' ∉ rest) :
    toPath .windows (scheme ++ .char '/' :: letter :: .char ':' :: rest)
      = letter :: .char ':' :: rest := by
  have hpercent : .char '%' ∉ .char '/' :: letter :: .char ':' :: rest := by
    have hne : CodePoint.char '%' ≠ letter := by
      rintro rfl
      cases hletter
    simp [hne, hrest]
  rw [toPath, Text.dropStart?_eq_some_iff.mpr rfl]
  simp only [percentDecode?_of_not_mem hpercent, Option.getD_some]
  exact if_pos hletter

end FileUri

theorem resolve_windows (directory reference : Text) :
    resolve .windows directory reference
      = canonical .windows (Windows.located directory (FileUri.toPath .windows reference)) := rfl

/-- **The case of a drive letter splits no file.**  A path on a drive has one key whichever case its
letter is in and whether or not it is written as a `file://` reference, and no key depends on the
case of the letter of the directory. -/
theorem resolve_letterCase {c : Char} (hlow : 'a' ≤ c) (hhigh : c ≤ 'z') :
    (∀ directory rest : Text, .char '%' ∉ rest →
      let small := .char c :: .char ':' :: rest
      let capital := .char c.toUpper :: .char ':' :: rest
      resolve .windows directory capital = resolve .windows directory small ∧
        resolve .windows directory (FileUri.scheme ++ .char '/' :: small)
          = resolve .windows directory small ∧
        resolve .windows directory (FileUri.scheme ++ .char '/' :: capital)
          = resolve .windows directory small) ∧
    ∀ base reference : Text,
      resolve .windows (.char c.toUpper :: .char ':' :: base) reference
        = resolve .windows (.char c :: .char ':' :: base) reference := by
  obtain ⟨hsmall, hcapital, -⟩ := Windows.smallLetter_facts hlow hhigh
  constructor
  · intro directory rest hrest small capital
    have hcase : resolve .windows directory capital = resolve .windows directory small := by
      rw [resolve_windows, resolve_windows, FileUri.toPath_colon, FileUri.toPath_colon]
      exact congrArg Windows.normalize
        (Windows.raiseDrive_located_capital hlow hhigh directory rest)
    have hreference {letter : CodePoint} (hletter : letter.isAsciiLetter = true) :
        resolve .windows directory (FileUri.scheme ++ .char '/' :: letter :: .char ':' :: rest)
          = resolve .windows directory (letter :: .char ':' :: rest) := by
      rw [resolve_windows, resolve_windows, FileUri.toPath_scheme_drive hletter hrest,
        FileUri.toPath_colon]
    exact ⟨hcase, hreference hsmall, (hreference hcapital).trans hcase⟩
  · intro base reference
    rw [resolve_windows, resolve_windows]
    exact congrArg Windows.normalize (Windows.raiseDrive_located_of_capital hlow hhigh base _)

/-- A path of a drive that is not rooted, from a directory on the same drive. -/
theorem resolve_letterCase_unrooted :
    let directory := text "D:/p"
    resolve .windows directory (text "D:x\\..\\A.c")
        = resolve .windows directory (text "d:x\\..\\A.c") ∧
      resolve .windows directory (text "file:///D:x\\..\\A.c") = text "D:\\p\\A.c" ∧
      resolve .windows directory (text "A.c") = resolve .windows (text "d:/p") (text "A.c") := by
  obtain ⟨hreference, hdirectory⟩ := resolve_letterCase (c := 'd') (by decide) (by decide)
  obtain ⟨hcase, -, hscheme⟩ := hreference (text "D:/p") (text "x\\..\\A.c") (by decide)
  exact ⟨hcase, hscheme.trans (by decide), hdirectory (text "/p") (text "A.c")⟩

end Path

end DiagnosticRelay
