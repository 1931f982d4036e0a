import DiagnosticRelay.Path.Lexical

/-!
# Finding the project of a file

A project is marked by a file or a directory of a known name in its topmost
directory.  The search starts at the given path if that is a directory, else at its parent,
and goes up one directory at a time until a marker is found, no directory is
left, or the allowed number of directories has been looked at.  The topmost directory is looked
at too.

Looking at the file system can fail, and then the thing that was looked for counts as absent
there; the other markers and the other directories are still tried.
-/

namespace DiagnosticRelay

/-- The two questions that the search asks a file system; each may fail. -/
structure Probes where
  isDirectory : NamedPath → Option Bool
  isPresent : NamedPath → Option Bool

namespace ProjectRoot

/-- The names that mark a project. -/
def defaultMarkers : List Text :=
  [text "vitte.toml", text "vitte.json", text "Cargo.toml", text "package.json", text ".git"]

/-- The number of directories that are looked at unless told otherwise. -/
def defaultDepth : Nat := 50

/-- Whether some marker is in a directory. -/
def isMarked (probes : Probes) (markers : List Text) (directory : NamedPath) : Bool :=
  markers.any fun marker =>
    probes.isPresent (directory.append (.ofText marker)) == some true

/-- The directory where the search starts. -/
def origin (probes : Probes) (start : NamedPath) : NamedPath :=
  if probes.isDirectory start == some true then start else start.parent

/-- Looks at so many directories, from the given one upwards. -/
def search (probes : Probes) (markers : List Text) : Nat → NamedPath → Option NamedPath
  | 0, _ => none
  | depth + 1, directory =>
    if isMarked probes markers directory then some directory
    else if directory.parent = directory then none
    else search probes markers depth directory.parent

/-- The nearest directory above a path that holds a marker. -/
def find (probes : Probes) (markers : List Text) (depth : Nat) (start : NamedPath) :
    Option NamedPath :=
  search probes markers depth (origin probes start)

/-- The directory that a checker runs in for a file.

A directory that is given is used; otherwise it is the file's project, or else the file's
own directory.  Relative paths are seen from `home`. -/
def workingDirectory (probes : Probes) (home : NamedPath) (given : Option NamedPath)
    (markers : List Text) (file : NamedPath) : NamedPath :=
  match given with
  | some directory => home.append directory
  | none =>
    let target := home.append file
    (find probes markers defaultDepth target).getD target.parent

end ProjectRoot

end DiagnosticRelay
