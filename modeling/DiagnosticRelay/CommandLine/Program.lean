import DiagnosticRelay.CommandLine.Parse

/-!
# The program

The first word that is not an option names the command, and the words after it are the
command's own.  A command line that cannot be understood ends with status two and
prints nothing on standard output.
-/

namespace DiagnosticRelay

namespace CommandLine

/-- What a command line asks for. -/
inductive Request where
  | help
  | check (options : CheckOptions)
  | parse (options : ParseOptions)

/-- The words of a command line from the name of the command on. -/
def fromCommand : List Text → Except UsageError (Option (List Text))
  | [] => .ok (some [])
  | word :: rest =>
    if word = text "--" then .ok (some rest)
    else if word = text "--help" then .ok none
    else if isOption word then .error .unknownOption
    else .ok (some (word :: rest))

/-- The request of one command, unless its help is asked for. -/
def commandRequest {α : Type} (specs : List OptionSpec)
    (ofScanned : Scanned → Except UsageError α) (request : α → Request) (words : List Text) :
    Except UsageError Request := do
  let scanned ← scan specs words
  if scanned.has "help" then return .help
  return request (← ofScanned scanned)

/-- What a command line asks for. -/
def Request.ofWords (words : List Text) : Except UsageError Request := do
  match ← fromCommand words with
  | none => return .help
  | some [] => .error .missingOperand
  | some (name :: rest) =>
    if name = text "check" then commandRequest CheckOptions.specs CheckOptions.ofScanned .check rest
    else if name = text "parse" then
      commandRequest ParseOptions.specs ParseOptions.ofScanned .parse rest
    else .error .unknownCommand

/-- A summary of the commands. -/
def usage : Text :=
  text "Usage: checkdiag COMMAND [OPTIONS] [ARGS]\n\n"
    ++ text "  check FILE    Run the checker for FILE and print its diagnostics.\n"
    ++ text "  parse [FILE]  Print the diagnostics found in captured checker output as JSON.\n"

variable {σ : Type}

/-- Runs the program. -/
def program (files : FileSystem) (environment : ConfigLayers.Environment) (input : Text)
    (checker : Option Binary64 → Checker σ) (words : List Text) (memory : σ) : Outcome × σ :=
  match Request.ofWords words with
  | .error _ => ({ status := 2 }, memory)
  | .ok .help => (({} : Outcome).print usage, memory)
  | .ok (.check options) => CheckCommand.run files environment checker options memory
  | .ok (.parse options) => (ParseCommand.run files input options, memory)

end CommandLine

end DiagnosticRelay
