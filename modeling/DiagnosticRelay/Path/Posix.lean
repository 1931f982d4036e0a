import DiagnosticRelay.Text.Basic

/-!
# Paths with slashes

A path is a root and a list of components between slashes.  The root is empty, one
slash, or exactly two slashes; three and more are the same as one.  Two slashes are kept
apart because the standard lets a system treat them in its own way.

Normalising a path evaluates its components on a stack: empty components and `.` do
nothing, `..` takes the top component away, any other component is put on top.  At
the root `..` has nothing to take away and is dropped; without a root it stays, and
so do further `..` above it.
-/

namespace DiagnosticRelay

namespace Path

/-- The component that stands for the directory itself. -/
def here : Text := text "."

/-- The component that stands for the directory above. -/
def above : Text := text ".."

namespace Posix

/-- The slash. -/
def slash : CodePoint := .char '/'

/-- Whether a path starts at the root. -/
def isAbsolute : Text → Bool
  | c :: _ => c == slash
  | [] => false

/-- The root of a path: nothing, one slash, or two if the path begins with exactly two. -/
def rootOf (path : Text) : Text :=
  match path.takeWhile (· == slash) with
  | [] => []
  | [a, b] => [a, b]
  | a :: _ => [a]

/-- The components of a path, without those that do nothing. -/
def components (path : Text) : List Text :=
  (Text.splitOn slash path).filter fun part => part != [] && part != here

/-- Puts a component on the stack of a path, whose top is the head of the list.

A path that starts at a root drops the `..` that would lead above it. -/
def push (rooted : Bool) (stack : List Text) (part : Text) : List Text :=
  if part = above then
    match stack with
    | [] => if rooted then [] else [above]
    | top :: below => if top = above then above :: stack else below
  else part :: stack

/-- The stack that a list of components leaves. -/
def collapse (rooted : Bool) (parts : List Text) : List Text := parts.foldl (push rooted) []

/-- A path in normal form; an empty one is `.`. -/
def normalize (path : Text) : Text :=
  let root := rootOf path
  let parts := (collapse (!root.isEmpty) (components path)).reverse
  match root ++ Text.join [slash] parts with
  | [] => here
  | whole => whole

/-- A path seen from a directory; an absolute path stays as it is. -/
def join (directory path : Text) : Text :=
  if isAbsolute path then path
  else if directory.isEmpty || directory.getLast? == some slash then directory ++ path
  else directory ++ slash :: path

end Posix

end Path

end DiagnosticRelay
