import DiagnosticRelay.LineGrammar.Location

/-!
# Lines that hold a stack frame

A stack trace names its places as `at path:line:column`, anywhere in a line and
followed by anything.  The word `at` may be in any case and may even be the end of a
longer word; at least one blank follows it.

Of several frames in a line the leftmost counts.  There the run of blanks is taken as
long as possible, then the path as short as possible, and the column's digits as far
as they go.  The rest of the line, with the frame cut out of it, is the message.
-/

namespace DiagnosticRelay

namespace LineGrammar

/-- A frame and the parts of its line before and after it; digits are kept by their values. -/
structure Frame where
  before : Text
  path : Text
  row : List Nat
  column : List Nat
  after : Text
  deriving DecidableEq

/-- The line and column at the head of a text, and what follows them. -/
def takePlace? (t : Text) : Option (List Nat × List Nat × Text) := do
  let (row, t) ← takeColonDigits? t
  let (column, t) ← takeColonDigits? t
  some (row, column, t)

/-- Tries ever longer paths up to a line and a column; the first argument is the path so far,
backwards. -/
def extendFramePath? : Text → Text → Option (Text × List Nat × List Nat × Text)
  | _, [] => none
  | path, c :: rest =>
    match if path.isEmpty then none else takePlace? (c :: rest) with
    | some (row, column, after) => some (path.reverse, row, column, after)
    | none => if c = lineFeed then none else extendFramePath? (c :: path) rest

/-- The frame that starts at the head of a text, with nothing before it. -/
def frameAt? (t : Text) : Option Frame := do
  let afterWord ← Text.dropLetters? t (text "at")
  let (path, row, column, after) ← (afterBlanks afterWord).dropLast.findSome? (extendFramePath? [])
  some ⟨[], path, row, column, after⟩

/-- Looks for a frame ever further right; the first argument is what stands before, backwards. -/
def findFrame? : Text → Text → Option Frame
  | _, [] => none
  | before, c :: rest =>
    match frameAt? (c :: rest) with
    | some frame => some { frame with before := before.reverse }
    | none => findFrame? (c :: before) rest

/-- The leftmost frame of a line. -/
def frame? (line : Text) : Option Frame := findFrame? [] line

end LineGrammar

end DiagnosticRelay
