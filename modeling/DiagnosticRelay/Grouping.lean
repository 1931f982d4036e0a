import DiagnosticRelay.HostRange
import DiagnosticRelay.Path.Reported

/-!
# Diagnostics by file

A host shows diagnostics file by file.  Files appear in the order of their first diagnostic, the
diagnostics of a file keep their order, and the key of a file is its canonical path.  A
diagnostic without a file is left out.  Grouping stops at the first of the others that cannot be
shown.
-/

namespace DiagnosticRelay

/-- Shown diagnostics by canonical path, in order of first appearance. -/
abbrev Grouped := List (Text × List HostDiagnostic)

namespace Grouped

/-- Adds a diagnostic to the end of a file's list; a new file goes to the end. -/
def add : Grouped → Text → HostDiagnostic → Grouped
  | [], file, diagnostic => [(file, [diagnostic])]
  | (key, bucket) :: rest, file, diagnostic =>
    if key = file then (key, bucket ++ [diagnostic]) :: rest
    else (key, bucket) :: add rest file diagnostic

@[simp] theorem add_nil (file : Text) (diagnostic : HostDiagnostic) :
    add [] file diagnostic = [(file, [diagnostic])] := rfl

/-- Groups diagnostics by file, under a label. -/
def ofDiagnostics (source : Option Text) (diagnostics : List Diagnostic) : Except Fault Grouped :=
  (diagnostics.filter fun diagnostic => !diagnostic.file.isEmpty).foldlM
    (fun grouped diagnostic => do
      let shown ← diagnostic.toHost source
      return grouped.add (Path.canonical .posix diagnostic.file) shown) []

/-- The number of diagnostics of all files together. -/
def total (grouped : Grouped) : Nat := (grouped.flatMap fun entry => entry.2).length

end Grouped

end DiagnosticRelay
