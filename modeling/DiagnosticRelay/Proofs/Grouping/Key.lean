import DiagnosticRelay.Grouping
import DiagnosticRelay.Proofs.Path.NormalForm

/-!
# The key of a file

A reference names a file, and the canonical path of the file is the key under which its diagnostics
are grouped.  That a key is canonical means three things.  It is in normal form, so nothing more can
be done to it.  It names the same file from everywhere, so a diagnostic that is read
back and read again stays with its file.  And it is the key of exactly those references that lead
to the same place.

The last of these has two halves, and both can go wrong: a key that is not normalised far enough
splits a file into two, and one that is normalised too far merges two files.  `absolute` is the path
that is looked at: what remains of the reference after its scheme and its escapes, seen from
the directory of the checker, which is itself seen from the directory of the process.
-/

namespace DiagnosticRelay

namespace Path

/-- The absolute path that a reference stands for, not yet normalised. -/
def absolute (home directory reference : Text) : Text :=
  Posix.join (Posix.normalize (Posix.join home directory)) (FileUri.toPath .posix reference)

theorem resolve_eq_normalize (home directory reference : Text) :
    resolve .posix (Posix.join home directory) reference
      = Posix.normalize (absolute home directory reference) := rfl

theorem isAbsolute_absolute {home : Text} (h : Posix.isAbsolute home = true)
    (directory reference : Text) : Posix.isAbsolute (absolute home directory reference) = true :=
  Posix.isAbsolute_join (Posix.isAbsolute_normalize (Posix.isAbsolute_join h directory)) _

/-- A path from the root is no reference with a scheme. -/
theorem toPath_of_isAbsolute {path : Text} (h : Posix.isAbsolute path = true) :
    FileUri.toPath .posix path = path := by
  obtain ⟨rest, rfl⟩ := Posix.exists_cons_of_isAbsolute h
  rfl

/-- A canonical key: in normal form, its own key from everywhere, and the key that a diagnostic of
this file is filed under. -/
structure IsKey (key : Text) : Prop where
  normal : Posix.IsNormal key
  canonical : canonical .posix key = key
  resolve : ∀ directory, resolve .posix directory key = key
  filed : ∀ source before (diagnostic : Diagnostic), diagnostic.file = key →
    Grouped.ofDiagnostics source (before ++ [diagnostic]) = do
      let grouped ← Grouped.ofDiagnostics source before
      let shown ← diagnostic.toHost source
      return grouped.add diagnostic.file shown

theorem isKey_of_isNormal {key : Text} (h : Posix.IsNormal key) : IsKey key := by
  have hcanonical : canonical .posix key = key := Posix.normalize_of_isNormal h
  have habsolute := Posix.isAbsolute_of_isNormal h
  refine ⟨h, hcanonical, ?_, ?_⟩
  · intro directory
    show canonical .posix (Posix.join _ (FileUri.toPath .posix key)) = key
    rw [toPath_of_isAbsolute habsolute, Posix.join_of_isAbsolute _ habsolute, hcanonical]
  · intro source before diagnostic hfile
    have hnamed : [diagnostic].filter (fun diagnostic => !diagnostic.file.isEmpty)
        = [diagnostic] := by
      obtain ⟨tail, htail⟩ := Posix.exists_cons_of_isAbsolute habsolute
      simp [hfile, htail]
    rw [Grouped.ofDiagnostics, List.filter_append, List.foldlM_append, hnamed]
    simp only [List.foldlM_cons, List.foldlM_nil, bind_pure, hfile, hcanonical]
    rfl

/-- **Keys are canonical.**  From an absolute directory of the process, every reference gets a
canonical key, wherever the checker ran, and two references get one key exactly if their paths lead
to the same components and agree on beginning with two slashes. -/
theorem resolve_canonical (home : Text) (h : Posix.isAbsolute home = true)
    (directory reference : Text) :
    IsKey (resolve .posix (Posix.join home directory) reference) ∧
    ∀ directory' reference',
      resolve .posix (Posix.join home directory) reference
          = resolve .posix (Posix.join home directory') reference' ↔
        Posix.evaluate (absolute home directory reference)
            = Posix.evaluate (absolute home directory' reference') ∧
          (Posix.BeginsWithTwo (absolute home directory reference) ↔
            Posix.BeginsWithTwo (absolute home directory' reference')) := by
  have habsolute := isAbsolute_absolute h
  constructor
  · rw [resolve_eq_normalize]
    exact isKey_of_isNormal (Posix.isNormal_normalize (habsolute directory reference))
  · intro directory' reference'
    rw [resolve_eq_normalize, resolve_eq_normalize]
    exact Posix.normalize_eq_iff (habsolute directory reference) (habsolute directory' reference')

/-- A path with `..` in a relative directory and a reference with a scheme name one file. -/
theorem resolve_canonical_reference :
    IsKey (text "/work/b.c") ∧
      resolve .posix (Posix.join (text "/") (text "work")) (text "a/../b.c")
        = resolve .posix (Posix.join (text "/") (text "tmp")) (text "file:///work/./%62.c") := by
  obtain ⟨hkey, heq⟩ := resolve_canonical (text "/") rfl (text "work") (text "a/../b.c")
  refine ⟨hkey, (heq (text "tmp") (text "file:///work/./%62.c")).mpr ⟨by decide, ?_⟩⟩
  refine iff_of_false ?_ ?_
  · rintro ⟨rest, hrest, -⟩
    cases hrest
  · rintro ⟨rest, hrest, -⟩
    cases hrest

end Path

end DiagnosticRelay
