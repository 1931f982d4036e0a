import DiagnosticRelay.Path.Posix

/-!
# Paths as lists of names

Where a path is walked upwards, cut relative to another or shown, it is taken apart
into a root and names.  Empty components and `.` disappear when it is read, and `..`
stays: it is a name like any other, and the parent of `a/..` is `a`.  So a path
made this way is not in the normal form of `Posix.normalize`, and differs from the
text it was read from only by superfluous slashes and dots.
-/

namespace DiagnosticRelay

/-- A path by its root and its names. -/
structure NamedPath where
  root : Text
  names : List Text
  deriving DecidableEq, Inhabited

namespace NamedPath

open DiagnosticRelay.Path

/-- The path that a text spells. -/
def ofText (path : Text) : NamedPath := ⟨Posix.rootOf path, Posix.components path⟩

/-- The text of a path; the empty path is `.`. -/
def toText (path : NamedPath) : Text :=
  match path.root ++ Text.join [Posix.slash] path.names with
  | [] => here
  | whole => whole

/-- Whether a path starts at a root. -/
def isAbsolute (path : NamedPath) : Bool := !path.root.isEmpty

/-- A path without its last name; the root and the empty path are their own parents. -/
def parent (path : NamedPath) : NamedPath := ⟨path.root, path.names.dropLast⟩

@[simp] theorem parent_root (path : NamedPath) : path.parent.root = path.root := rfl

/-- A path seen from a directory; an absolute path stays as it is. -/
def append (directory path : NamedPath) : NamedPath :=
  if path.isAbsolute then path else ⟨directory.root, directory.names ++ path.names⟩

/-- The last name of a path, empty if there is none. -/
def lastName (path : NamedPath) : Text := path.names.getLast?.getD []

/-- The last name of a path without its extension.

An extension follows the last point of the name, if that is neither the first nor the
last code point. -/
def stem (path : NamedPath) : Text :=
  match Text.cutAtLast? (.char '.') path.lastName with
  | some (before, after) => if before.isEmpty || after.isEmpty then path.lastName else before
  | none => path.lastName

/-- The part of a path below a directory, if it lies there. -/
def below? (directory path : NamedPath) : Option NamedPath :=
  if path.root = directory.root ∧ directory.names.isPrefixOf path.names then
    some ⟨[], path.names.drop directory.names.length⟩
  else none

end NamedPath

namespace Path

/-- A path as it is shown to a reader in a directory: relative if it lies below, else unchanged. -/
def displayFrom (directory path : Text) : Text :=
  match (NamedPath.ofText directory).below? (NamedPath.ofText path) with
  | some relative => relative.toText
  | none => path

end Path

end DiagnosticRelay
