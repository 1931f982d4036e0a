import DiagnosticRelay.Diagnostic

/-!
# From reported ranges to shown ranges

An editor counts from zero and cannot show an empty range.  A coordinate loses one
and is not let below zero.  An end that comes before its start is exchanged with it; an
end that is missing, has a zero coordinate or coincides with the start is replaced by
the place one character after the start.  Where nothing is known, the first character
of the file is shown.
-/

namespace DiagnosticRelay

/-- A coordinate counted from zero, at least zero. -/
def zeroBased (coordinate : Int) : Int := max 0 (coordinate - 1)

/-- A position counted from zero. -/
def Position.toHost (position : Position) : HostPosition :=
  ⟨zeroBased position.line, zeroBased position.column⟩

/-- Whether both coordinates of a position differ from zero. -/
def Position.isUsable (position : Position) : Bool := position.line != 0 && position.column != 0

namespace HostRange

/-- The single character at a position. -/
def character (start : HostPosition) : HostRange := ⟨start, ⟨start.line, start.character + 1⟩⟩

/-- The range between two positions, the earlier one first; a single character if they coincide. -/
def between (a b : HostPosition) : HostRange :=
  if b = a then character a
  else if b.before a then ⟨b, a⟩
  else ⟨a, b⟩

/-- The range that is shown for a reported one. -/
def ofRange? : Option Range → HostRange
  | none => character ⟨0, 0⟩
  | some range =>
    match range.stop with
    | some stop => if stop.isUsable then between range.start.toHost stop.toHost
      else character range.start.toHost
    | none => character range.start.toHost

end HostRange

/-- A diagnostic as a host shows it, under the given label; a code that is an integer with too
many digits cannot be shown. -/
def Diagnostic.toHost (diagnostic : Diagnostic) (source : Option Text) :
    Except Fault HostDiagnostic := do
  let code ← diagnostic.code.mapM Code.display
  return {
    range := .ofRange? diagnostic.range
    message := diagnostic.message
    severity := diagnostic.severity
    code := code
    source := source }

end DiagnosticRelay
