import DiagnosticRelay.FileSystem
import DiagnosticRelay.Invocation
import DiagnosticRelay.Number.Binary64
import DiagnosticRelay.Number.Shortest
import DiagnosticRelay.Text.Newline

/-!
# Starting programs

A program is started by its path or by its name.  An absolute path is used as it is;
a path with a directory in it is seen from the directory that the program will run in, if
one is given; a bare name is looked up in the directories of the search path, and the place
where it is found is spelled as the search path spells the directory.  Superfluous dots do
not make a name a path.

What a program writes is collected as octets.  When it has ended by itself, its outputs
have to be UTF-8, and their line ends become line feeds.  When it was stopped because
it ran too long, whatever can be decoded of its outputs is kept as it is.

What a program does is not said here.  `Programs` stands for it: whoever runs commands
on a host supplies it, and is asked once for each program that is started.
-/

namespace DiagnosticRelay

/-- The machine that programs run on: its files, the search path with colons between the directories
where programs are looked up, and the variables of this process. -/
structure Host where
  files : FileSystem
  searchPath : Text
  environment : List (Text × Text)

/-- A program with its arguments, and how it is to be run. -/
structure Command where
  words : List Text
  directory : Option NamedPath := none
  environment : Option (List (Text × Text)) := none
  limit : Option Binary64 := none
  capture : Bool := true

/-- How a program came to an end: by itself, by a signal, or by its time limit. -/
inductive Ending where
  | exit (status : Nat)
  | signal (number : Nat)
  | overdue
  deriving DecidableEq

/-- The outputs of a program as octets, and how it ended. -/
structure Ended where
  stdout : List UInt8
  stderr : List UInt8
  ending : Ending

/-- What the operating system is given to start a program: the words in octets, the variables, the
directory, and the microseconds after which the program is stopped. -/
structure Start where
  program : List UInt8
  arguments : List (List UInt8)
  environment : List (List UInt8 × List UInt8)
  directory : NamedPath
  limit : Option Nat

/-- What the programs of a file tree do when they are started, and which of them are refused. -/
abbrev Programs := FileSystem → Start → Except SystemError Ended

/-- What a program that ended by itself leaves behind. -/
structure Completed where
  status : Int
  stdout : Option Text
  stderr : Option Text
  deriving DecidableEq

/-- Why running a program gave no result. -/
inductive CommandFailure where
  | overdue (limit : Option Binary64) (stdout stderr : Text)
  | status (program : Text) (status : Int) (stdout stderr : Option Text)
  | fault (fault : Fault)

namespace CommandFailure

/-- A failure in words. -/
def message : CommandFailure → Text
  | .overdue (some limit) _ _ =>
    text "Command timed out after " ++ limit.displayTenths ++ text "s"
  | .overdue none _ _ => text "Command timed out"
  | .status program number _ stderr =>
    let shown := match stderr with
      | none | some [] => text "<none>"
      | some t => t
    text "Command '" ++ program ++ text "' exited with status " ++ Decimal.ofInt number
      ++ text ". stderr: " ++ shown
  | .fault f => f.message

end CommandFailure

namespace Host

/-- Whether a path leads to a program as it is spelled. -/
def isProgramAt (host : Host) (place : Text) : Bool :=
  FileSystem.octetCount place ≤ FileSystem.pathLimit && host.files.isProgram (.ofText place)

/-- The places where a path without a directory is looked up.

An empty search path has no directories, and a path without a name leads to directories only. -/
def candidates (host : Host) (path : NamedPath) : List Text :=
  if host.searchPath.isEmpty || path.names.isEmpty then []
  else (Text.splitOn (.char ':') host.searchPath).map (Path.Posix.join · path.toText)

/-- Where the program of a relative path lies.

A path with a directory is seen from the directory of the command, if it has one. -/
def locate? (host : Host) (directory : Option NamedPath) (path : NamedPath) : Option Text :=
  if 1 < path.names.length then
    let seen := match directory with
      | some directory => directory.append path
      | none => path
    if host.files.isProgram seen then some seen.toText else none
  else (host.candidates path).find? host.isProgramAt

/-- The program that the first word of a command names, with the other words. -/
def resolve (host : Host) (command : Command) : Except Fault (List Text) :=
  match command.words with
  | [] => .error .emptyCommand
  | head :: rest =>
    let path := NamedPath.ofText head
    if path.isAbsolute then .ok (path.toText :: rest)
    else match host.locate? command.directory path with
      | some place => .ok (place :: rest)
      | none => .error (.unknownProgram head)

/-- The texts that a start hands to the operating system, each checked for what it cannot hold. -/
def checkTexts : List Text → Except Fault (List (List UInt8))
  | [] => .ok []
  | t :: ts => do
    let octets ← systemOctets t
    if octets.contains 0 then .error .embeddedNul
    let others ← checkTexts ts
    return octets :: others

/-- The variables of a start, as octets, which may still hold zeros. -/
def variableOctets : List (Text × Text) → Except Fault (List (List UInt8 × List UInt8))
  | [] => .ok []
  | (name, value) :: rest => do
    let key ← systemOctets name
    if name.contains (.char '=') then .error .badVariableName
    let content ← systemOctets value
    let others ← variableOctets rest
    return (key, content) :: others

/-- The microseconds of a time limit; a limit below zero counts as zero. -/
def microseconds (limit : Binary64) : Nat :=
  match limit with
  | .finite false mantissa exponent =>
    let (num, den) := Binary64.magnitude mantissa exponent
    num * 1000000 / den
  | _ => 0

/-- Why the outputs of a program cannot be awaited for so long. -/
def limitFault? (limit : Binary64) : Option LimitFault :=
  match limit with
  | .nan => some .undefined
  | .infinite false => some .infinite
  | .infinite true => none
  | .finite .. =>
    let micro := microseconds limit
    if 9223372036854775 < micro then some .beyondClock
    else if 2147483647000 < micro then some .beyondWait
    else none

/-- The microseconds after which a program is stopped; a limit that cannot be kept does not stop
it. -/
def stopAfter? (limit : Option Binary64) : Option Nat :=
  match limit with
  | some x => if (limitFault? x).isSome then none else some (microseconds x)
  | none => none

/-- Starts a program and lets it run to its end or to its time limit. -/
def start (host : Host) (programs : Programs) (command : Command) (words : List Text) :
    Except Fault Ended := do
  let environment ← variableOctets (command.environment.getD host.environment)
  let octets ← checkTexts words
  if environment.any fun (key, content) => key.contains 0 || content.contains 0 then
    .error .embeddedNul
  let directory := command.directory.getD host.files.home
  if command.directory.isSome then
    let _ ← checkTexts [directory.toText]
    match ← host.files.node directory with
    | .directory _ => pure ()
    | _ => .error (.system .notDirectory directory.toText)
  let start : Start := {
    program := octets.head?.getD []
    arguments := octets.drop 1
    environment := environment
    directory := host.files.home.append directory
    limit := stopAfter? command.limit }
  let failure (error : SystemError) : Fault := .system error (words.head?.getD [])
  if FileSystem.pathLimit < start.program.length then .error (failure .nameTooLong)
  let ended ← (programs host.files start).mapError failure
  if command.capture then
    if let some fault := command.limit.bind limitFault? then .error (.limit fault)
  if stopAfter? command.limit = some 0 then return ⟨[], [], .overdue⟩
  return ended

/-- The status of a program that ended by itself; a signal counts below zero. -/
def statusOf : Ending → Option Int
  | .exit status => some status
  | .signal number => some (-(number : Int))
  | .overdue => none

/-- The text of an output of a program that ended by itself. -/
def outputText (octets : List UInt8) : Except Fault Text :=
  match Utf8.decode octets with
  | .ok t => .ok (Text.unifyNewlines t)
  | .error failure => .error (.undecodable failure)

/-- Runs a command; where that is asked for, a status other than zero is a failure. -/
def run (host : Host) (programs : Programs) (command : Command) (check : Bool) :
    Except CommandFailure Completed := do
  let words ← (host.resolve command).mapError .fault
  let ended ← (host.start programs command words).mapError .fault
  match statusOf ended.ending with
  | none =>
    let kept (octets : List UInt8) : Text :=
      if command.capture then Utf8.decodeIgnoring octets else []
    .error (.overdue command.limit (kept ended.stdout) (kept ended.stderr))
  | some status =>
    let stdout ← (outputText ended.stdout).mapError .fault
    let stderr ← (outputText ended.stderr).mapError .fault
    let completed : Completed :=
      if command.capture then ⟨status, some stdout, some stderr⟩ else ⟨status, none, none⟩
    if check && status != 0 then
      .error (.status (words.head?.getD []) status completed.stdout completed.stderr)
    else return completed

/-- The checker that starts real programs of a host. -/
def checker (host : Host) (programs : Programs) (limit : Option Binary64)
    (environment : Option (List (Text × Text))) : Checker Unit := fun launch _ =>
  let command : Command := {
    words := launch.program :: launch.arguments
    directory := some (.ofText launch.directory)
    environment := environment
    limit := limit }
  match host.run programs command false with
  | .ok completed =>
    (.ok { stdout := completed.stdout.getD [], stderr := completed.stderr.getD []
           exitStatus := some completed.status }, ())
  | .error (.fault fault) =>
    if fault.isStartFailure then (.ok (.ofStartFault fault), ()) else (.error fault, ())
  | .error failure =>
    let stderr := match failure with
      | .overdue _ _ stderr => stderr
      | _ => []
    let stdout := match failure with
      | .overdue _ stdout _ => stdout
      | _ => []
    (.ok { stdout := stdout
           stderr := if stderr.isEmpty then failure.message
             else stderr ++ text "\n" ++ failure.message }, ())

end Host

end DiagnosticRelay
