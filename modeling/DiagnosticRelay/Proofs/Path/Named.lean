import DiagnosticRelay.Path.Lexical
import DiagnosticRelay.Proofs.Path.NormalForm
import Mathlib.Logic.Function.Iterate

/-!
# The names of a path

A path that is taken apart into a root and names can be walked upwards.  `ancestor` goes up so many
steps, and each step takes the last name away (`ancestor_eq`).  The way up ends with the first
directory that is its own parent, which is the root or the empty path; so it has one directory more
than the path has names (`isReached_iff`).

A relative path has no root, and a text without slashes is one name or none.
-/

namespace DiagnosticRelay

open DiagnosticRelay.Path (here)
open DiagnosticRelay.Path.Posix (slash)

namespace NamedPath

theorem isAbsolute_append {directory : NamedPath} (h : directory.isAbsolute = true)
    (path : NamedPath) : (directory.append path).isAbsolute = true := by
  rw [append]
  split
  · next hpath => exact hpath
  · exact h

theorem append_of_isAbsolute (directory : NamedPath) {path : NamedPath}
    (h : path.isAbsolute = true) : directory.append path = path := if_pos h

/-! ## The names of a relative path -/

theorem ofText_of_slash_not_mem {t : Text} (h : slash ∉ t) :
    ofText t = ⟨[], [t].filter fun part => part != [] && part != here⟩ := by
  have hroot : Path.Posix.rootOf t = [] := by
    rw [Path.Posix.rootOf, Path.Posix.takeWhile_slash_of_head? fun hhead =>
      h (List.mem_of_mem_head? hhead)]
  have hpieces : Text.splitOn slash t = [t] :=
    Text.splitOn_join (List.cons_ne_nil t []) fun piece hpiece => List.mem_singleton.mp hpiece ▸ h
  rw [ofText, hroot, Path.Posix.components, hpieces]

/-- A text without slashes is one name, or none. -/
theorem names_of_slash_not_mem {t : Text} (h : slash ∉ t) :
    (ofText t).names = [] ∨ (ofText t).names = [t] := by
  rw [ofText_of_slash_not_mem h, List.filter_cons, List.filter_nil]
  split
  · exact Or.inr rfl
  · exact Or.inl rfl

theorem root_eq_nil {path : NamedPath} (h : path.isAbsolute = false) : path.root = [] := by
  rwa [isAbsolute, Bool.not_eq_false', List.isEmpty_iff] at h

/-- A relative path of one name is spelled by that name alone. -/
theorem toText_ofText {head name : Text} (h : (ofText head).isAbsolute = false)
    (hname : (ofText head).names = [name]) : (ofText head).toText = name := by
  have hmem : name ∈ Path.Posix.components head := by
    rw [← show (ofText head).names = Path.Posix.components head from rfl, hname]
    exact List.mem_singleton.mpr rfl
  have hkept := (List.mem_filter.mp hmem).2
  rw [Bool.and_eq_true, bne_iff_ne] at hkept
  obtain ⟨c, rest, rfl⟩ := List.exists_cons_of_ne_nil hkept.1
  rw [toText, root_eq_nil h, hname, List.nil_append, Text.join_singleton]

variable {path : NamedPath} {n : Nat}

/-! ## The directories above a path -/

/-- The directory so many steps above a path. -/
def ancestor (path : NamedPath) (n : Nat) : NamedPath := parent^[n] path

@[simp] theorem ancestor_zero (path : NamedPath) : path.ancestor 0 = path := rfl

theorem ancestor_succ (path : NamedPath) (n : Nat) :
    path.ancestor (n + 1) = path.parent.ancestor n :=
  Function.iterate_succ_apply parent n path

theorem ancestor_ancestor (path : NamedPath) (m n : Nat) :
    (path.ancestor m).ancestor n = path.ancestor (n + m) :=
  (Function.iterate_add_apply parent n m path).symm

/-- Going up takes names away from the end. -/
theorem ancestor_eq (path : NamedPath) (n : Nat) :
    path.ancestor n = ⟨path.root, path.names.take (path.names.length - n)⟩ := by
  induction n generalizing path with
  | zero => rw [ancestor_zero, Nat.sub_zero, List.take_length]
  | succ n ih =>
    have hlength : path.names.length - 1 - n = path.names.length - (n + 1) := by omega
    rw [ancestor_succ, ih, parent, List.length_dropLast, List.dropLast_eq_take, List.take_take,
      hlength, Nat.min_eq_left (by omega)]

@[simp] theorem isAbsolute_ancestor (path : NamedPath) (n : Nat) :
    (path.ancestor n).isAbsolute = path.isAbsolute := by
  rw [ancestor_eq]
  rfl

/-- A directory is its own parent if it has no name that could be taken away. -/
theorem parent_eq_self_iff : path.parent = path ↔ path.names = [] := by
  constructor
  · intro h
    have hlength := congrArg (fun path => path.names.length) h
    simp only [parent, List.length_dropLast] at hlength
    exact List.eq_nil_of_length_eq_zero (by omega)
  · intro h
    rw [parent, h, List.dropLast_nil, ← h]

/-- So many steps up do not go past the first directory that is its own parent. -/
def IsReached (path : NamedPath) (n : Nat) : Prop :=
  ∀ m < n, (path.ancestor m).parent ≠ path.ancestor m

instance (path : NamedPath) (n : Nat) : Decidable (path.IsReached n) :=
  inferInstanceAs (Decidable (∀ m < n, _))

theorem IsReached.of_le {m : Nat} (h : path.IsReached n) (hle : m ≤ n) : path.IsReached m :=
  fun other hother => h other (Nat.lt_of_lt_of_le hother hle)

theorem isReached_zero (path : NamedPath) : path.IsReached 0 :=
  fun m hm => absurd hm (Nat.not_lt_zero m)

theorem isReached_succ_iff :
    path.IsReached (n + 1) ↔ path.parent ≠ path ∧ path.parent.IsReached n := by
  constructor
  · intro h
    refine ⟨h 0 (Nat.zero_lt_succ n), fun m hm => ?_⟩
    rw [← ancestor_succ]
    exact h (m + 1) (Nat.succ_lt_succ hm)
  · rintro ⟨htop, h⟩ m hm
    cases m with
    | zero => exact htop
    | succ m =>
      rw [ancestor_succ]
      exact h m (Nat.lt_of_succ_lt_succ hm)

/-- The chain of directories has a last one, behind as many steps as there are names. -/
theorem isReached_iff : path.IsReached n ↔ n ≤ path.names.length := by
  induction n generalizing path with
  | zero => exact iff_of_true (isReached_zero path) (Nat.zero_le _)
  | succ n ih =>
    rw [isReached_succ_iff, ne_eq, parent_eq_self_iff, ih, parent, List.length_dropLast,
      ← List.length_eq_zero_iff]
    omega

end NamedPath

end DiagnosticRelay
