import DiagnosticRelay.Collection
import DiagnosticRelay.Negotiation
import DiagnosticRelay.ProjectRoot

/-!
# Checking a file

A check runs the checker in the right directory, reads what it says, groups the
findings by file and publishes them.  The collection is touched only at the end: a
check that ends in a fault leaves everything as it was.
-/

namespace DiagnosticRelay

/-- The label of a checker that has none: the name of its program without the extension. -/
def sourceLabel (program : Text) : Text :=
  match (NamedPath.ofText program).stem with
  | [] => program
  | label => label

/-- What is to be checked, and how. -/
structure CheckTask where
  program : Text
  arguments : List Text
  trigger : NamedPath
  directory : Option NamedPath := none
  source : Option Text := none
  markers : List Text := ProjectRoot.defaultMarkers

/-- What a check found, by file. -/
structure CheckReport where
  trigger : Text
  directory : NamedPath
  strategy : Negotiation.Strategy
  invocationCount : Nat
  grouped : Grouped
  startFault : Option Fault

namespace Check

variable {σ : Type}

/-- The report of a negotiation. -/
def report (home : NamedPath) (task : CheckTask) (directory : NamedPath)
    (outcome : Negotiation.Outcome) : Except Fault CheckReport := do
  let label := task.source.getD (sourceLabel task.program)
  let grouped ← Grouped.ofDiagnostics (some label) outcome.diagnostics
  return {
    trigger := Path.resolve .posix directory.toText (home.append task.trigger).toText
    directory := directory
    strategy := outcome.strategy
    invocationCount := outcome.invocations.length
    grouped := grouped
    startFault := outcome.invocations.head?.bind (·.startFault) }

/-- Runs a check and publishes what it found; the collection afterwards comes with the answer. -/
def run (probes : Probes) (home : NamedPath) (checker : Checker σ) (task : CheckTask)
    (collection : Collection) (memory : σ) : Except Fault CheckReport × Collection × σ :=
  let directory := ProjectRoot.workingDirectory probes home task.directory task.markers
    (home.append task.trigger)
  let launch : Launch := ⟨task.program, task.arguments, directory.toText⟩
  match Negotiation.negotiate home.toText checker launch memory with
  | (.error fault, memory) => (.error fault, collection, memory)
  | (.ok outcome, memory) =>
    match report home task directory outcome with
    | .error fault => (.error fault, collection, memory)
    | .ok report => (.ok report, collection.publish report.grouped report.trigger, memory)

end Check

end DiagnosticRelay
