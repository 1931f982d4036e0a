import DiagnosticRelay.Path.Posix
import DiagnosticRelay.Text.LowerCase

/-!
# Paths with drives

A path may begin with a drive: a letter and a colon, or a share, which is two
separators, a server, a separator and a name.  Both the backslash and the slash
separate components, and a normal form has backslashes only.  What stands after the
drive is rooted if it begins with a separator; a path with a separator at its head counts as
absolute even without a drive.

A path of a device, or one that is marked as literal, begins with two separators and a
dot or a question mark.  It is read as a share like any other, except that a literal
path to a share has the marker in front of its server.
-/

namespace DiagnosticRelay

namespace Path

namespace Windows

/-- The backslash. -/
def backslash : CodePoint := .char '\\'

/-- Whether a code point separates components. -/
def isSeparator (c : CodePoint) : Bool := c == backslash || c == Posix.slash

/-- A path with backslashes for slashes. -/
def backslashed (path : Text) : Text := Text.replaceAll Posix.slash backslash path

/-- Whether a path begins with a separator. -/
def isRooted : Text → Bool
  | c :: _ => isSeparator c
  | [] => false

/-- How many code points stand before the first backslash, from the given place on. -/
def findBackslash? (t : Text) (start : Nat) : Option Nat :=
  ((t.drop start).findIdx? (· == backslash)).map (start + ·)

/-- The length of the drive of a path that begins with two separators. -/
def shareLength (normal : Text) : Nat :=
  let start :=
    if Text.lower (normal.take 8) = text "\\\\?\\unc\\" then 8 else 2
  match findBackslash? normal start with
  | none => normal.length
  | some index =>
    match findBackslash? normal (index + 1) with
    | none => normal.length
    | some index => index

/-- The drive of a path and what follows it. -/
def splitDrive (path : Text) : Text × Text :=
  match path with
  | a :: b :: rest =>
    if isSeparator a && isSeparator b then
      path.splitAt (shareLength (backslashed path))
    else if b = .char ':' then ([a, b], rest)
    else ([], path)
  | _ => ([], path)

/-- Whether a path counts as absolute: rooted, or rooted on a drive letter. -/
def isAbsolute (path : Text) : Bool :=
  isRooted path || match path with
    | _ :: .char ':' :: rest => isRooted rest
    | _ => false

/-- Whether two drives are the same but for the case of their letters. -/
def sameDrive (a b : Text) : Bool := Text.lowerCase a == Text.lowerCase b

/-- Puts a relative path after a directory, with a backslash between them if there is none. -/
def append (directory path : Text) : Text :=
  match directory.getLast? with
  | none => path
  | some last =>
    if isSeparator last then directory ++ path else directory ++ backslash :: path

/-- A drive and what follows it as one path; a share is kept apart from what follows it. -/
def withDrive (drive path : Text) : Text :=
  match path, drive.getLast? with
  | [], _ => drive
  | _, none => path
  | _, some last =>
    if isRooted path || last == .char ':' then drive ++ path else drive ++ backslash :: path

/-- A path seen from a directory.

A rooted path keeps only the directory's drive, and not even that if it has one itself; a
path on another drive ignores the directory; any other path is put after it, on the drive
as the path spells it. -/
def join (directory path : Text) : Text :=
  let (baseDrive, base) := splitDrive directory
  let (drive, rest) := splitDrive path
  if isRooted rest then
    withDrive (if drive.isEmpty then baseDrive else drive) rest
  else if drive.isEmpty || drive == baseDrive then
    withDrive baseDrive (append base rest)
  else if sameDrive drive baseDrive then
    withDrive drive (append base rest)
  else
    withDrive drive rest

/-- A path in normal form; an empty one is a dot. -/
def normalize (path : Text) : Text :=
  let (drive, rest) := splitDrive (backslashed path)
  let root := if isRooted rest then drive ++ [backslash] else drive
  let closed := root.getLast? == some backslash
  let parts := (Text.splitOn backslash rest).filter fun part => part != [] && part != here
  let stack := Posix.collapse closed parts
  match root ++ Text.join [backslash] stack.reverse with
  | [] => here
  | whole => whole

/-- A path with the drive letter at its head in upper case. -/
def raiseDrive (path : Text) : Text :=
  match path with
  | .char letter :: .char ':' :: rest =>
    if 'a' ≤ letter ∧ letter ≤ 'z' then .char letter.toUpper :: .char ':' :: rest else path
  | _ => path

end Windows

end Path

end DiagnosticRelay
