import DiagnosticRelay.Invocation
import DiagnosticRelay.LineGrammar.Rule
import DiagnosticRelay.StructuredReport

/-!
# Agreeing on an output format

A checker is first asked for JSON: unless the caller's arguments already choose a format,
`--format=json` is put after them.  Output that looks like JSON and is JSON settles the
matter, also when it lists nothing.

Otherwise the output is read as text.  If the format argument was put in by us, the checker
may have choked on it, and it is run a second time with exactly the caller's arguments; if the
caller chose the format, the output at hand is read.  A checker that could not be started is
not run again.  So there are one or two runs, never more.
-/

namespace DiagnosticRelay

namespace Negotiation

/-- The argument that chooses an output format. -/
def formatFlag : Text := text "--format"

/-- The argument that asks for JSON. -/
def jsonFormat : Text := text "--format=json"

/-- Whether an argument chooses an output format. -/
def isFormatFlag (argument : Text) : Bool :=
  argument == formatFlag || Text.startsWith argument (text "--format=")

/-- Whether some argument chooses an output format. -/
def hasFormatFlag (arguments : List Text) : Bool := arguments.any isFormatFlag

/-- The arguments of the first run. -/
def structuredArguments (arguments : List Text) : List Text :=
  if hasFormatFlag arguments then arguments else arguments ++ [jsonFormat]

/-- The readers that the diagnostics of a check can come from. -/
inductive Strategy where
  | json
  | text
  deriving DecidableEq

/-- The name of a strategy. -/
def Strategy.name : Strategy → Text
  | .json => DiagnosticRelay.text "json"
  | .text => DiagnosticRelay.text "text"

/-- The diagnostics of a check, the reader they come from, and the runs that were made. -/
structure Outcome where
  diagnostics : List Diagnostic
  strategy : Strategy
  invocations : List Invocation
  deriving DecidableEq

/-- The structured diagnostics of a run, if its output looks like JSON and is JSON. -/
def structured? (directory : Text) (invocation : Invocation) :
    Except Fault (Option (List Diagnostic)) :=
  if invocation.started && StructuredReport.isLikely invocation.stdout then
    StructuredReport.diagnostics? directory invocation.stdout
  else .ok none

/-- Reads the output of the last of some runs as text. -/
def readText (directory : Text) (invocations : List Invocation) (last : Invocation) :
    Except Fault Outcome := do
  return ⟨← TextReport.diagnostics directory last.combinedOutput, .text, invocations⟩

variable {σ : Type}

/-- Runs a checker once or twice and reads its output; paths are seen from `home`. -/
def negotiate (home : Text) (checker : Checker σ) (launch : Launch) (memory : σ) :
    Except Fault Outcome × σ :=
  let directory := Path.Posix.join home launch.directory
  match checker.run { launch with arguments := structuredArguments launch.arguments } memory with
  | (.error fault, memory) => (.error fault, memory)
  | (.ok first, memory) =>
    match structured? directory first with
    | .error fault => (.error fault, memory)
    | .ok (some diagnostics) => (.ok ⟨diagnostics, .json, [first]⟩, memory)
    | .ok none =>
      if first.started && !hasFormatFlag launch.arguments then
        match checker.run launch memory with
        | (.error fault, memory) => (.error fault, memory)
        | (.ok second, memory) => (readText directory [first, second] second, memory)
      else (readText directory [first] first, memory)

end Negotiation

end DiagnosticRelay
