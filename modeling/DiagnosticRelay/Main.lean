import DiagnosticRelay.CommandLine.Survey
import DiagnosticRelay.Shell.Program

/-!
# The executable

The program reads the files that its command line will look at, runs the command on
them, prints what the command printed and ends with its status.  Everything that is
decided is decided in `CommandLine.program`; here is only what touches the world.

A file counts as a program if its first line names an interpreter.  What programs do when
they are started is supplied here, too: they are run by `Shell`.
-/

namespace DiagnosticRelay

namespace Executable

/-- The number of a failed reading that tells of a directory. -/
def directoryCode : UInt32 := 21

/-- What lies at a path; whatever cannot be read counts as absent. -/
def look (path : NamedPath) : IO (Option Node) := do
  match ← (IO.FS.readBinFile path.toText.toString).toBaseIO with
  | .ok content =>
    let octets := content.toList
    return some (.file octets (Shell.interpreterLine? octets).isSome)
  | .error (.inappropriateType _ code _) =>
    return if code = directoryCode then some (.directory []) else none
  | .error _ => return none

/-- Adds what lies at some paths to a file tree. -/
def gather (files : FileSystem) : List NamedPath → IO FileSystem
  | [] => return files
  | path :: paths => do
    let absolute := files.home.append path
    match files.node absolute, ← look absolute with
    | .error _, some node =>
      gather { files with root := files.root.put absolute.names node } paths
    | _, _ => gather files paths

/-- Surveys a command line and gathers what it looks at, so many times. -/
def survey (environment : ConfigLayers.Environment) (words : List Text) : Nat → Host → IO Host
  | 0, host => return host
  | rounds + 1, host => do
    let files ← gather host.files (CommandLine.Survey.places host environment words)
    survey environment words rounds { host with files := files }

/-- The variables of this process that the program or a checker may ask for. -/
def environment : IO ConfigLayers.Environment := do
  let found ← ["CHECKDIAG_BIN", "CHECKDIAG_TIMEOUT", "HOME", "PATH"].mapM fun name => do
    return (← IO.getEnv name).map fun value => (text name, text value)
  return found.filterMap id

/-- The search path of a process that has none of its own. -/
def defaultSearchPath : Text := text "/bin:/usr/bin"

/-- The machine as far as it is known before anything was read. -/
def emptyHost (environment : ConfigLayers.Environment) : IO Host := do
  let home := NamedPath.ofText (text (← IO.currentDir).toString)
  let shell := NamedPath.ofText (text "/bin/sh")
  let root := (Node.directory []).put shell.names (.program (text "sh"))
  let root := root.put home.names (.directory [])
  let searched := (environment.find? fun entry => entry.1 == text "PATH").map (·.2)
  return {
    files := ⟨root, home⟩
    searchPath := searched.getD defaultSearchPath
    environment := environment }

end Executable

end DiagnosticRelay

open DiagnosticRelay in
/-- Runs the program. -/
def main (words : List String) : IO UInt32 := do
  let words := words.map text
  let environment ← Executable.environment
  let host ← Executable.survey environment words CommandLine.Survey.rounds
    (← Executable.emptyHost environment)
  let input ← if words.head? = some (text "parse") then (← IO.getStdin).readBinToEnd
    else pure ByteArray.empty
  let checker (limit : Option Binary64) := host.checker Shell.programs limit none
  let (outcome, _) := CommandLine.program host.files environment
    (Utf8.decodeReplacing input.toList) checker words ()
  (← IO.getStdout).putStr outcome.output.toString
  if let some fault := outcome.fault then
    (← IO.getStderr).putStrLn fault.message.toString
  return .ofNat outcome.status
