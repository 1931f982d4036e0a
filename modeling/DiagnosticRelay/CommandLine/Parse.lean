import DiagnosticRelay.CapturedOutput
import DiagnosticRelay.CommandLine.Check
import DiagnosticRelay.Export

/-!
# The parse command

The command reads output that was captured earlier, from a file or from standard
input, and prints the diagnostics in it as one JSON document.  Octets that are not UTF-8 are
replaced, and every kind of line end is read as a line feed.
-/

namespace DiagnosticRelay

namespace CommandLine

/-- What the parse command is asked to do. -/
structure ParseOptions where
  source : Text := text "-"
  directory : Option NamedPath := none
  format : InputFormat := .auto

namespace ParseOptions

/-- The options of the parse command. -/
def specs : List OptionSpec := [
  ⟨[text "--cwd"], text "cwd", true⟩,
  ⟨[text "--format", text "-f"], text "format", true⟩,
  ⟨[text "--help"], text "help", false⟩]

/-- The options that a command line spells. -/
def ofScanned (scanned : Scanned) : Except UsageError ParseOptions := do
  let source ← match scanned.operands with
    | [] => .ok (text "-")
    | [source] => .ok source
    | _ => .error .extraOperand
  let directory ← CheckOptions.converted CheckOptions.pathOf? (scanned.last? "cwd")
  let format ← CheckOptions.converted InputFormat.ofName? (scanned.last? "format")
  return ⟨source, directory, format.getD .auto⟩

end ParseOptions

namespace ParseCommand

/-- Why the source of the output cannot be read. -/
inductive ReadFailure where
  | refused (source : Text) (fault : Fault)
  | fault (fault : Fault)

/-- The captured output of a source; a hyphen stands for standard input. -/
def readSource (files : FileSystem) (input source : Text) : Except ReadFailure Text :=
  if source = text "-" then .ok (Text.unifyNewlines input)
  else match files.read (.ofText source) with
    | .ok octets => .ok (Text.unifyNewlines (Utf8.decodeReplacing octets))
    | .error (.system error path) => .error (.refused source (.system error path))
    | .error fault => .error (.fault fault)

/-- The document of some diagnostics. -/
def document (diagnostics : List Diagnostic) : Except Fault Text :=
  Json.document (.list (diagnostics.map Diagnostic.toValue))

/-- Prints why the command failed. -/
def fail (message : Text) : Outcome :=
  (({} : Outcome).print (Console.message .fail false message)).exit 1

/-- Runs the command. -/
def run (files : FileSystem) (input : Text) (options : ParseOptions) : Outcome :=
  let directory := files.home.append (options.directory.getD ⟨[], []⟩)
  match readSource files input options.source with
  | .error (.fault fault) => ({} : Outcome).raise fault
  | .error (.refused source fault) =>
    fail (text "cannot read " ++ source ++ text ": " ++ fault.message)
  | .ok output =>
    match CapturedOutput.diagnostics directory.toText options.format output with
    | .error (.fault fault) => ({} : Outcome).raise fault
    | .error .notJson => fail CapturedOutput.notJsonMessage
    | .ok diagnostics => ({} : Outcome).write ((document diagnostics).map (· ++ text "\n"))

end ParseCommand

end CommandLine

end DiagnosticRelay
