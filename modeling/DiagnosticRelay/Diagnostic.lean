import DiagnosticRelay.Range
import DiagnosticRelay.Severity

/-!
# Diagnostics

A `Diagnostic` is what a parser finds in the checker's output: the file by its
canonical path, the message, a level, perhaps a code and perhaps a range counted
from one.

A `HostDiagnostic` is what an editor shows: a concrete range that is counted from zero and
covers at least one character, the code as text, and the label of the checker that
reported it.
-/

namespace DiagnosticRelay

/-- The code of a diagnostic. -/
inductive Code where
  | str (s : Text)
  | int (z : Int)
  | float (x : Binary64)
  deriving DecidableEq

namespace Code

/-- A code as a loosely typed value. -/
def value : Code → Value
  | .str s => .str s
  | .int z => .int z
  | .float x => .float x

/-- A code as text. -/
def display (code : Code) : Except Fault Text := code.value.display

end Code

/-- A finding of a checker. -/
structure Diagnostic where
  file : Text
  message : Text := []
  severity : Severity := .info
  code : Option Code := none
  range : Option Range := none
  deriving DecidableEq

/-- A line and a character, counted from zero. -/
structure HostPosition where
  line : Int
  character : Int
  deriving DecidableEq, Inhabited

namespace HostPosition

/-- Whether one position comes before another, lines first. -/
def before (a b : HostPosition) : Bool :=
  a.line < b.line || (a.line == b.line && a.character < b.character)

end HostPosition

/-- A range with both ends, counted from zero. -/
structure HostRange where
  start : HostPosition
  stop : HostPosition
  deriving DecidableEq, Inhabited

/-- A diagnostic as a host shows it. -/
structure HostDiagnostic where
  range : HostRange
  message : Text
  severity : Severity
  code : Option Text := none
  source : Option Text := none
  deriving DecidableEq

end DiagnosticRelay
