import DiagnosticRelay.Check
import DiagnosticRelay.CommandLine.Options
import DiagnosticRelay.CommandLine.Outcome
import DiagnosticRelay.Config.Layers
import DiagnosticRelay.Presentation

/-!
# The check command

The command runs the checker for one file and prints what it found.  Its
configuration is that of the project, overridden by the options of the command line.  The
status is one if an error was reported or the checker could not be started, two if
the configuration is unusable, and zero otherwise.
-/

namespace DiagnosticRelay

namespace CommandLine

/-- How diagnostics are printed. -/
inductive OutputMode where
  | pretty
  | json
  deriving DecidableEq

/-- What the check command is asked to do. -/
structure CheckOptions where
  file : NamedPath
  root : Option NamedPath := none
  binary : Option Text := none
  arguments : List Text := []
  timeout : Option Binary64 := none
  output : OutputMode := .pretty
  signs : Bool := true

namespace CheckOptions

/-- The options of the check command. -/
def specs : List OptionSpec := [
  ⟨[text "--root", text "-r"], text "root", true⟩,
  ⟨[text "--bin"], text "bin", true⟩,
  ⟨[text "--arg", text "-a"], text "arg", true⟩,
  ⟨[text "--timeout"], text "timeout", true⟩,
  ⟨[text "--output", text "-o"], text "output", true⟩,
  ⟨[text "--debug"], text "debug", false⟩,
  ⟨[text "--no-color"], text "no-color", false⟩,
  ⟨[text "--emoji"], text "emoji", false⟩,
  ⟨[text "--no-emoji"], text "no-emoji", false⟩,
  ⟨[text "--help"], text "help", false⟩]

/-- The output mode with a name. -/
def modeOf? (name : Text) : Option OutputMode :=
  if name = text "pretty" then some .pretty
  else if name = text "json" then some .json
  else none

/-- An optional value that has to be convertible if it is given. -/
def converted {α : Type} (convert : Text → Option α) :
    Option Text → Except UsageError (Option α)
  | none => .ok none
  | some given => match convert given with
    | some value => .ok (some value)
    | none => .error .badValue

/-- The path that an argument names; the operating system has to be able to take it. -/
def pathOf? (given : Text) : Option NamedPath :=
  match systemOctets given with
  | .ok octets => if octets.contains 0 then none else some (.ofText given)
  | .error _ => none

/-- Whether signs are printed: the last of the two switches decides. -/
def signsOf (scanned : Scanned) : Bool :=
  match (scanned.settings.filter fun entry =>
      entry.1 == text "emoji" || entry.1 == text "no-emoji").getLast? with
  | some entry => entry.1 == text "emoji"
  | none => true

/-- The options that a command line spells. -/
def ofScanned (scanned : Scanned) : Except UsageError CheckOptions := do
  let file ← match scanned.operands with
    | [] => .error .missingOperand
    | [file] => match pathOf? file with
      | some path => .ok path
      | none => .error .badValue
    | _ => .error .extraOperand
  let root ← converted pathOf? (scanned.last? "root")
  let timeout ← converted Binary64.readSetting? (scanned.last? "timeout")
  let output ← converted modeOf? (scanned.last? "output")
  return {
    file := file
    root := root
    binary := scanned.last? "bin"
    arguments := (scanned.all "arg").filter (!·.isEmpty)
    timeout := timeout
    output := output.getD .pretty
    signs := signsOf scanned }

/-- The keys of the configuration that the options override. -/
def overrides (options : CheckOptions) : Members :=
  (options.binary.map fun binary => (text "binary", Value.str binary)).toList
    ++ (if options.arguments.isEmpty then []
      else [(text "check_args", .list (options.arguments.map .str))])
    ++ (options.timeout.map fun timeout => (text "timeout", Value.float timeout)).toList

end CheckOptions

namespace CheckCommand

variable {σ : Type}

/-- The directory whose configuration applies. -/
def projectRoot (files : FileSystem) (options : CheckOptions) : NamedPath :=
  ProjectRoot.workingDirectory files.probes files.home options.root ProjectRoot.defaultMarkers
    options.file

/-- What is checked under a configuration. -/
def task (options : CheckOptions) (config : CheckConfig) : CheckTask where
  program := config.binary
  arguments := config.arguments
  trigger := options.file
  directory := options.root
  source := config.source
  markers := config.markers

/-- The closing line for people. -/
def summary (options : CheckOptions) (report : CheckReport) (collection : Collection) : Text :=
  let printed := (Presentation.listing collection.entries).length
  if printed = 0 then Console.message .ok options.signs (text "No diagnostics reported")
  else Console.message .info options.signs
    (Decimal.ofNat printed ++ text " diagnostic(s) in " ++ Decimal.ofNat collection.size
      ++ text " file(s) (" ++ report.strategy.name ++ text " output)")

/-- Prints what a check found. -/
def present (options : CheckOptions) (report : CheckReport) (collection : Collection) : Outcome :=
  match options.output with
  | .json =>
    ({} : Outcome).write ((Presentation.document collection.entries).map (· ++ text "\n"))
  | .pretty =>
    let lines := Presentation.pretty (some report.directory.toText) collection.entries
    (lines.foldl Outcome.write {}).print (summary options report collection)

/-- The status for what a check found. -/
def statusOf (collection : Collection) : Nat :=
  if collection.count (some .error) = 0 then 0 else 1

/-- What is printed for a finished check, and its status. -/
def conclude (options : CheckOptions) (config : CheckConfig) (report : CheckReport)
    (collection : Collection) : Outcome :=
  match report.startFault with
  | some fault =>
    (({} : Outcome).print (Console.message .warn options.signs
      (text "Could not start " ++ config.binary ++ text ": " ++ fault.message))).exit 1
  | none => (present options report collection).exit (statusOf collection)

/-- Runs the command; the checker may depend on the time limit of the configuration. -/
def run (files : FileSystem) (environment : ConfigLayers.Environment)
    (checker : Option Binary64 → Checker σ) (options : CheckOptions) (memory : σ) : Outcome × σ :=
  match ConfigLayers.load files (projectRoot files options) environment options.overrides with
  | .error (.fault fault) => (({} : Outcome).raise fault, memory)
  | .error failure =>
    ((({} : Outcome).print (Console.message .fail options.signs failure.message)).exit 2, memory)
  | .ok config =>
    if !config.enabled then
      (({} : Outcome).print (Console.message .info options.signs
        (text "Diagnostics are disabled by configuration")), memory)
    else
      match Check.run files.probes files.home (checker config.timeout) (task options config) {}
          memory with
      | (.error fault, _, memory) => (({} : Outcome).raise fault, memory)
      | (.ok report, collection, memory) => (conclude options config report collection, memory)

end CheckCommand

end CommandLine

end DiagnosticRelay
