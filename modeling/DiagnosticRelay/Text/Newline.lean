import DiagnosticRelay.Text.Basic

/-!
# Line endings

Captured output is split at line feeds, and a carriage return directly before a
line feed belongs to the ending.  A carriage return elsewhere is part of its line.

Reading a file or a stream as text is different: there both a carriage return with
its line feed and a carriage return alone become one line feed.
-/

namespace DiagnosticRelay

namespace Text

/-- The lines of a text; the ending of a line is LF or CR LF. -/
def splitLines : Text → List Text
  | [] => [[]]
  | .char '\n' :: rest => [] :: splitLines rest
  | .char '\r' :: .char '\n' :: rest => [] :: splitLines rest
  | c :: rest =>
    match splitLines rest with
    | [] => [[c]]
    | line :: lines => (c :: line) :: lines

@[simp] theorem splitLines_nil : splitLines [] = [[]] := rfl

@[simp] theorem splitLines_lineFeed (rest : Text) :
    splitLines (.char '\n' :: rest) = [] :: splitLines rest := rfl

/-- A text with CR LF and CR alone turned into LF. -/
def unifyNewlines : Text → Text
  | [] => []
  | .char '\r' :: .char '\n' :: rest => .char '\n' :: unifyNewlines rest
  | .char '\r' :: rest => .char '\n' :: unifyNewlines rest
  | c :: rest => c :: unifyNewlines rest

@[simp] theorem unifyNewlines_nil : unifyNewlines [] = [] := rfl

end Text

end DiagnosticRelay
