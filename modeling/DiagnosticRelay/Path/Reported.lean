import DiagnosticRelay.Path.FileUri

/-!
# The canonical path of a reported file

Diagnostics of one file have to end up together, however the checker names it.  A
reference is turned into a path, seen from the directory the checker ran in, and
normalised; with drives, the letter is raised to upper case first.  The result is the
key under which the file's diagnostics are grouped.

The directory is given as an absolute path for the slash rules (`Posix.join` with the
directory of the process makes it one) and is normalised here; for the drive rules it
is taken as it is.
-/

namespace DiagnosticRelay

namespace Path

/-- A path in the form under which it is grouped. -/
def canonical : Flavour → Text → Text
  | .posix, path => Posix.normalize path
  | .windows, path => Windows.normalize (Windows.raiseDrive path)

/-- The canonical path of a reference reported by a checker that ran in a directory. -/
def resolve (flavour : Flavour) (directory reference : Text) : Text :=
  let path := FileUri.toPath flavour reference
  match flavour with
  | .posix => canonical .posix (Posix.join (Posix.normalize directory) path)
  | .windows =>
    canonical .windows (if Windows.isAbsolute path then path else Windows.join directory path)

end Path

end DiagnosticRelay
