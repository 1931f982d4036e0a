import DiagnosticRelay.Path.Lexical
import DiagnosticRelay.Proofs.Grouping.Forms
import DiagnosticRelay.Proofs.Path.Stack
import Mathlib.Data.List.Infix

/-!
# A relative path is shown as it was given

A checker names a file relative to the directory it runs in.  The name is resolved for the grouping
of its diagnostics, and cut back to the directory when they are shown.  The two steps take paths
apart in different ways: `Posix.normalize` evaluates `..`, while `NamedPath.ofText` keeps it as a
name.

What is resolved has no `..` left to differ about: if the path never climbs above the directory
(`StaysBelow`), then its key has the components to which the directory evaluates, and behind them
those to which the path does (`evaluate_join_of_staysBelow`).  The directory itself is not evaluated
when something is shown in it.  So the steps cancel exactly if it has no `..` among its names; and if
it has one, then nothing lies below it, and the whole key is shown (`displayFrom_resolve_eq`).

For a directory and a path in normal form there is nothing to evaluate, and the path is shown as it
was given (`displayFrom_resolve`).  It follows that two such paths have one key only if they are equal
(`resolve_inj`).
-/

namespace DiagnosticRelay

namespace Path

namespace Posix

theorem filter_of_isComponent {parts : List Text} (h : ∀ part ∈ parts, IsComponent part) :
    (parts.filter fun part => part != [] && part != here) = parts := by
  rw [List.filter_eq_self]
  intro part hpart
  rw [Bool.and_eq_true, bne_iff_ne, bne_iff_ne]
  exact ⟨(h part hpart).nonempty, (h part hpart).ne_here⟩

@[simp] theorem components_cons_slash (rest : Text) :
    components (slash :: rest) = components rest := by
  rw [components, Text.splitOn_cons_self]
  rfl

theorem components_join {parts : List Text} (h : ∀ part ∈ parts, IsComponent part) :
    components (Text.join [slash] parts) = parts := by
  by_cases hparts : parts = []
  · subst hparts
    rfl
  · rw [components, Text.splitOn_join hparts fun part hpart => (h part hpart).slash_not_mem,
      filter_of_isComponent h]

/-- A normal form is taken apart into the root and the components it was put together from. -/
theorem ofText_root_append_join {root : Text} {parts : List Text} (hroot : IsRoot root)
    (h : ∀ part ∈ parts, IsComponent part) :
    NamedPath.ofText (root ++ Text.join [slash] parts) = ⟨root, parts⟩ := by
  rw [NamedPath.ofText, rootOf_root_append_join hroot h]
  rcases hroot with rfl | rfl
  · rw [List.singleton_append, components_cons_slash, components_join h]
  · rw [List.cons_append, List.singleton_append, components_cons_slash, components_cons_slash,
      components_join h]

/-- A walk is the stack of its components, read from the bottom. -/
theorem evaluate_eq (path : Text) : evaluate path = (collapse true (components path)).reverse :=
  (reverse_foldl_push List.not_mem_nil _).symm

/-- Without `..` a path leads through all of its components. -/
theorem evaluate_of_not_mem {path : Text} (h : above ∉ components path) :
    evaluate path = components path := by
  rw [evaluate_eq, collapse, foldl_push_of_not_mem true [] h, List.append_nil, List.reverse_reverse]

/-! ## Paths that do not climb -/

/-- A path that never climbs above where it starts: no beginning of it leads up more often than
down. -/
def StaysBelow (path : Text) : Prop :=
  ∀ front, front <+: components path → front.count above ≤ front.countP (· != above)

instance : DecidablePred StaysBelow := fun path =>
  decidable_of_iff (∀ front ∈ (components path).inits,
    front.count above ≤ front.countP (· != above)) (by simp only [List.mem_inits, StaysBelow])

/-- Where a relative path leads, from where it starts. -/
def descent (path : Text) : List Text := (collapse false (components path)).reverse

section StaysBelow

variable {directory path : Text} (hdirectory : isAbsolute directory = true)
  (hpath : ¬isAbsolute path = true) (hbelow : StaysBelow path)

include hpath in
/-- The normal form of a relative path is where it leads. -/
theorem normalize_of_not_isAbsolute : normalize path = (NamedPath.mk [] (descent path)).toText := by
  have hroot : rootOf path = [] := by
    rw [rootOf, takeWhile_slash_of_head? (head?_ne_slash_of_not_isAbsolute hpath)]
  rw [normalize, hroot]
  rfl

include hdirectory hpath hbelow

/-- A path that does not climb leads to where it leads from where its directory leads. -/
theorem evaluate_join_of_staysBelow :
    evaluate (join directory path) = evaluate directory ++ descent path := by
  have hstack : above ∉ (evaluate directory).reverse := fun hmem =>
    (isComponent_of_mem_evaluate (List.mem_reverse.mp hmem)).ne_above rfl
  have hfront (front : List Text) (hfront : front <+: components path) :
      front.count above ≤ ([] : List Text).length + front.countP (· != above) := by
    rw [List.length_nil, Nat.zero_add]
    exact hbelow front hfront
  have hwalk := foldl_push_append true (evaluate directory).reverse List.not_mem_nil hfront
  rw [evaluate_join_of_not_isAbsolute hdirectory hpath]
  rw [List.nil_append, components] at hwalk
  rw [← List.reverse_reverse (evaluate directory), ← reverse_foldl_push hstack, hwalk,
    List.reverse_append, List.reverse_reverse]
  rfl

/-- The key of a path that does not climb. -/
theorem resolve_of_staysBelow (hscheme : ¬ ∃ rest, path = FileUri.scheme ++ rest) :
    resolve .posix directory path
      = rootOf directory ++ Text.join [slash] (evaluate directory ++ descent path) := by
  have hroot : rootOf (join directory path) = rootOf directory := by
    rw [rootOf, takeWhile_slash_join hdirectory hpath, ← rootOf]
  show normalize (join (normalize directory) (FileUri.toPath .posix path)) = _
  rw [FileUri.toPath_of_not_scheme hscheme, normalize_join_normalize hdirectory,
    normalize_eq (isAbsolute_join hdirectory path), hroot,
    evaluate_join_of_staysBelow hdirectory hpath hbelow]

/-- The components of a key are names of entries, those of the directory and those of the path. -/
theorem isComponent_of_mem_append :
    ∀ part ∈ evaluate directory ++ descent path, IsComponent part := by
  intro part hpart
  rw [← evaluate_join_of_staysBelow hdirectory hpath hbelow] at hpart
  exact isComponent_of_mem_evaluate hpart

theorem isNormal_resolve_of_staysBelow (hscheme : ¬ ∃ rest, path = FileUri.scheme ++ rest) :
    IsNormal (resolve .posix directory path) :=
  isNormal_iff.mpr ⟨_, _, resolve_of_staysBelow hdirectory hpath hbelow hscheme,
    isRoot_rootOf hdirectory, isComponent_of_mem_append hdirectory hpath hbelow⟩

theorem not_isAbsolute_normalize : isAbsolute (normalize path) = false := by
  have hhead := head?_join fun part hpart =>
    isComponent_of_mem_append hdirectory hpath hbelow part (List.mem_append_right _ hpart)
  rw [normalize_of_not_isAbsolute hpath, NamedPath.toText, List.nil_append]
  split
  · rfl
  · next hne =>
    obtain ⟨c, rest, hcons⟩ := List.exists_cons_of_ne_nil hne
    rw [hcons] at hhead ⊢
    simpa [isAbsolute] using hhead

end StaysBelow

/-! ## Relative paths in normal form -/

/-- A relative path in normal form: no component of it is empty, `.` or `..`. -/
def IsRelativeNormal (path : Text) : Prop :=
  ∀ part ∈ Text.splitOn slash path, part ≠ [] ∧ part ≠ here ∧ part ≠ above

instance : DecidablePred IsRelativeNormal := fun path =>
  inferInstanceAs (Decidable (∀ part ∈ Text.splitOn slash path, _))

namespace IsRelativeNormal

variable {path : Text} (h : IsRelativeNormal path)

include h

theorem isComponent : ∀ part ∈ Text.splitOn slash path, IsComponent part := fun part hpart =>
  ⟨(h part hpart).1, (h part hpart).2.1, (h part hpart).2.2, Text.not_mem_of_mem_splitOn hpart⟩

theorem ne_nil : path ≠ [] := by
  rintro rfl
  exact (h [] (List.mem_singleton.mpr rfl)).1 rfl

theorem not_isAbsolute : ¬ isAbsolute path = true := by
  intro habsolute
  obtain ⟨rest, rfl⟩ := exists_cons_of_isAbsolute habsolute
  exact (h [] (by rw [Text.splitOn_cons_self]; exact List.mem_cons_self ..)).1 rfl

/-- The two slashes of a scheme would have an empty component between them. -/
theorem not_scheme : ¬ ∃ rest, path = FileUri.scheme ++ rest := by
  rintro ⟨rest, rfl⟩
  have hscheme : FileUri.scheme ++ rest = text "file:" ++ slash :: slash :: rest := rfl
  refine (h [] ?_).1 rfl
  rw [hscheme, Text.splitOn_append_cons, Text.splitOn_cons_self]
  exact List.mem_append_right _ (List.mem_cons_self ..)

theorem components_eq : components path = Text.splitOn slash path :=
  filter_of_isComponent h.isComponent

theorem above_not_mem : above ∉ components path := by
  rw [h.components_eq]
  exact fun hmem => (h above hmem).2.2 rfl

theorem staysBelow : StaysBelow path := by
  intro front hfront
  rw [List.count_eq_zero_of_not_mem fun hmem => h.above_not_mem (hfront.subset hmem)]
  exact Nat.zero_le _

/-- It stays as it is. -/
theorem normalize_eq : normalize path = path := by
  obtain ⟨c, tail, hcons⟩ := List.exists_cons_of_ne_nil h.ne_nil
  rw [normalize_of_not_isAbsolute h.not_isAbsolute, descent, collapse,
    foldl_push_of_not_mem false [] h.above_not_mem, List.append_nil, List.reverse_reverse,
    h.components_eq, NamedPath.toText, List.nil_append, Text.join_splitOn, hcons]

end IsRelativeNormal

/-- A normal form holds no `..`. -/
theorem above_not_mem_of_isNormal {path : Text} (h : IsNormal path) : above ∉ components path := by
  obtain ⟨root, parts, rfl, hroot, hparts⟩ := isNormal_iff.mp h
  have hnames := congrArg NamedPath.names (ofText_root_append_join hroot hparts)
  rw [show components (root ++ Text.join [slash] parts) = parts from hnames]
  exact fun hmem => (hparts above hmem).ne_above rfl

end Posix

open Posix

/-! ## Shown paths -/

/-- **What is shown of a resolved path that does not climb**: its normal form, or the whole key if
the directory has `..` among its names. -/
theorem displayFrom_resolve_eq {directory path : Text} (hdirectory : isAbsolute directory = true)
    (hpath : ¬isAbsolute path = true) (hscheme : ¬ ∃ rest, path = FileUri.scheme ++ rest)
    (hbelow : StaysBelow path) :
    displayFrom directory (resolve .posix directory path)
      = if above ∈ components directory then resolve .posix directory path
        else normalize path := by
  have hall := isComponent_of_mem_append hdirectory hpath hbelow
  have hkey : NamedPath.ofText (resolve .posix directory path)
      = ⟨rootOf directory, evaluate directory ++ descent path⟩ := by
    rw [resolve_of_staysBelow hdirectory hpath hbelow hscheme,
      ofText_root_append_join (isRoot_rootOf hdirectory) hall]
  rw [displayFrom, hkey, NamedPath.ofText, NamedPath.below?]
  by_cases habove : above ∈ components directory
  · -- the key has no such name, and so the directory is no beginning of it
    have hnot : ¬components directory <+: evaluate directory ++ descent path := fun hle =>
      (hall above (hle.subset habove)).ne_above rfl
    rw [if_pos habove, if_neg (by rw [List.isPrefixOf_iff_prefix]; exact fun h => hnot h.2)]
  · rw [if_neg habove, evaluate_of_not_mem habove,
      if_pos ⟨rfl, List.isPrefixOf_iff_prefix.mpr (List.prefix_append ..)⟩, List.drop_left,
      normalize_of_not_isAbsolute hpath]

/-- **A relative path in normal form is shown as it was given.** -/
theorem displayFrom_resolve {directory path : Text} (hdirectory : IsNormal directory)
    (hpath : IsRelativeNormal path) :
    displayFrom directory (resolve .posix directory path) = path := by
  rw [displayFrom_resolve_eq (isAbsolute_of_isNormal hdirectory) hpath.not_isAbsolute
    hpath.not_scheme hpath.staysBelow, if_neg (above_not_mem_of_isNormal hdirectory),
    hpath.normalize_eq]

/-- Relative paths in normal form are told apart by their keys. -/
theorem resolve_inj {directory path other : Text} (hdirectory : IsNormal directory)
    (hpath : IsRelativeNormal path) (hother : IsRelativeNormal other) :
    resolve .posix directory path = resolve .posix directory other ↔ path = other := by
  refine ⟨fun heq => ?_, fun heq => heq ▸ rfl⟩
  rw [← displayFrom_resolve hdirectory hpath, heq, displayFrom_resolve hdirectory hother]

/-- **Resolving a path and showing it gives its normal form back**, if it is relative and never climbs
above the directory, in exactly the directories that have no `..` among their names.  In any other
directory the key is shown as it is. -/
theorem displayFrom_resolve_iff {directory path : Text} (hdirectory : isAbsolute directory = true)
    (hpath : isAbsolute path = false) (hscheme : ¬ ∃ rest, path = FileUri.scheme ++ rest)
    (hbelow : StaysBelow path) :
    (displayFrom directory (resolve .posix directory path) = normalize path ↔
      above ∉ components directory) ∧
    (above ∈ components directory →
      displayFrom directory (resolve .posix directory path) = resolve .posix directory path) := by
  have hrelative : ¬isAbsolute path = true := by rw [hpath]; exact Bool.false_ne_true
  have hshown := displayFrom_resolve_eq hdirectory hrelative hscheme hbelow
  refine ⟨⟨fun heq habove => ?_, fun habove => by rw [hshown, if_neg habove]⟩,
    fun habove => by rw [hshown, if_pos habove]⟩
  -- a key is absolute, and the normal form of a relative path is not
  rw [hshown, if_pos habove] at heq
  have hkey := isAbsolute_of_isNormal
    (isNormal_resolve_of_staysBelow hdirectory hrelative hbelow hscheme)
  rw [heq, not_isAbsolute_normalize hdirectory hrelative hbelow] at hkey
  cases hkey

/-- A directory that is given by a way through one of its own directories: the file is named relative
to it and shown by its whole key. -/
theorem displayFrom_resolve_iff_detour :
    StaysBelow (text "src/./main.x") ∧ above ∈ components (text "/p/src/..") ∧
    displayFrom (text "/p/src/..") (resolve .posix (text "/p/src/..") (text "src/./main.x"))
      = text "/p/src/main.x" ∧
    normalize (text "src/./main.x") = text "src/main.x" := by
  have hbelow : StaysBelow (text "src/./main.x") := by decide
  have habove : above ∈ components (text "/p/src/..") := by decide
  have hscheme : ¬ ∃ rest, text "src/./main.x" = FileUri.scheme ++ rest := by
    rintro ⟨rest, hrest⟩
    cases hrest
  have hdirectory : isAbsolute (text "/p/src/..") = true := rfl
  have hshown := (displayFrom_resolve_iff hdirectory rfl hscheme hbelow).2 habove
  exact ⟨hbelow, habove, hshown.trans (by decide), by decide⟩

end Path

end DiagnosticRelay
