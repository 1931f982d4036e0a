import DiagnosticRelay.Process
import DiagnosticRelay.Shell.Syntax

/-!
# A shell script in the middle of its run

A script runs against a file tree.  What it writes is collected, time passes only
while it sleeps, and it ends by leaving, by being killed, or by sleeping past its
time limit.

A run keeps all that commands can see or change: variables, functions and arguments, the
current directory, where outputs lead, what is left of the input, the status of the last
command.  A run that is *leaving* is on its way out of something, of a loop, a function or the
shell itself, and does nothing more until that is reached.

Whatever is collected is kept with the latest octet first.
-/

namespace DiagnosticRelay

namespace Shell

/-- Octets as a text of the shell. -/
def ofOctets (octets : List UInt8) : Text := octets.map fun octet => .ofValue octet.toNat

/-- A text of the shell as octets. -/
def toOctets (t : Text) : List UInt8 := t.map fun c => .ofNat c.value

/-- The text of a name or a message of the file system as a text of the shell. -/
def ofText (t : Text) : Text := ofOctets (Utf8.encodeLoose t)

/-- Where an output leads. -/
inductive Channel where
  | stdout
  | stderr
  | nowhere
  | closed
  | file (names : List Text)
  | pipe (index : Nat)
  deriving DecidableEq

/-- What a run is on its way out of.  A refusal leads out of the shell, too, unless it leads into an
ordinary builtin first. -/
inductive Leave where
  | shell (ending : Ending)
  | refusal
  | loops (levels : Nat)
  | round (levels : Nat)
  | function
  deriving DecidableEq

/-- A variable, which may be known without having a value. -/
structure Variable where
  name : Text
  value : Option Text
  exported : Bool := false
  readOnly : Bool := false
  deriving DecidableEq

/-- The options of a shell. -/
structure Options where
  leaveOnFailure : Bool := false
  refuseUnset : Bool := false
  trace : Bool := false
  noPatterns : Bool := false
  exportAll : Bool := false
  fromInput : Bool := false

/-- Where a search for options goes on: the index of the next word, counted from one, and how much
of the word before it has been searched. -/
structure OptionPlace where
  next : Nat := 1
  used : Option Nat := none

/-- A command in the background: its number, how and when it ends, and whether it can still write
to the outputs of the script until then. -/
structure Job where
  process : Nat
  ending : Ending
  endsAt : Nat
  holdsOutputs : Bool

/-- A script in the middle of its run. -/
structure Run where
  files : FileSystem
  name : Text
  arguments : List Text
  bindings : List Variable
  directory : NamedPath
  functions : List (Text × Command) := []
  channels : List (Nat × Channel) := [(0, .closed), (1, .stdout), (2, .stderr)]
  input : Text := []
  stdout : Text := []
  stderr : Text := []
  pipes : List Text := []
  status : Nat := 0
  outputStatus : Nat := 0
  line : Nat := 1
  builtin : Text := []
  options : Options := {}
  traps : List (Text × Text) := []
  tested : Bool := false
  loops : Nat := 0
  calls : Nat := 0
  locals : List Variable := []
  optionPlace : OptionPlace := {}
  process : Nat := 1000
  lastProcess : Nat := 1000
  jobs : List Job := []
  actions : List Text := []
  heldUntil : Nat := 0
  elapsed : Nat := 0
  limit : Option Nat := none
  leaving : Option Leave := none

namespace Run

/-! ## Status and leaving -/

/-- Whether a run goes on. -/
def isActive (run : Run) : Bool := run.leaving.isNone

/-- Records the status of a command. -/
def done (run : Run) (status : Nat) : Run := { run with status := status }

/-- Sets out to leave something. -/
def leave (run : Run) (leaving : Leave) : Run := { run with leaving := some leaving }

/-- Ends the shell with a status. -/
def exit (run : Run) (status : Nat) : Run := (run.done status).leave (.shell (.exit status))

/-- Lets time pass up to a moment; past the limit, the run ends. -/
def waitUntil (run : Run) (moment : Nat) : Run :=
  let run := { run with elapsed := max run.elapsed moment }
  if run.limit.any (· ≤ run.elapsed) then run.leave (.shell .overdue) else run.done 0

/-- Lets time pass. -/
def sleep (run : Run) (microseconds : Nat) : Run := run.waitUntil (run.elapsed + microseconds)

/-! ## Outputs -/

/-- The pipes with a text written to the one of the given index, counted from the oldest. -/
def writeToPipe (index : Nat) (t : Text) (pipes : List Text) : List Text :=
  match pipes with
  | [] => []
  | pipe :: older =>
    if older.length = index then (t.reverseAux pipe) :: older
    else pipe :: writeToPipe index t older

/-- The file tree with a text written to the end of a file. -/
def writeToFile (files : FileSystem) (names : List Text) (t : Text) : FileSystem :=
  match FileSystem.walk files.root [] names with
  | .ok (.file content executable, _) =>
    { files with root := files.root.put names (.file (content ++ toOctets t) executable) }
  | _ => files

/-- Writes a text to a channel. -/
def write (run : Run) (channel : Channel) (t : Text) : Run :=
  match channel with
  | .stdout => { run with stdout := t.reverseAux run.stdout }
  | .stderr => { run with stderr := t.reverseAux run.stderr }
  | .nowhere => run
  | .closed => run
  | .file names => { run with files := writeToFile run.files names t }
  | .pipe index => { run with pipes := writeToPipe index t run.pipes }

/-- Where an output leads. -/
def channel (run : Run) (number : Nat) : Channel :=
  ((run.channels.find? fun entry => entry.1 == number).map (·.2)).getD .closed

/-- Leads an output somewhere else. -/
def lead (run : Run) (number : Nat) (channel : Channel) : Run :=
  { run with
    channels := (number, channel) :: run.channels.filter fun entry => entry.1 != number }

/-- Writes a text to output one. -/
def print (run : Run) (t : Text) : Run := run.write (run.channel 1) t

/-- Writes a line to output two. -/
def report (run : Run) (t : Text) : Run := run.write (run.channel 2) (t ++ text "\n")

/-- Complains in the name of the script, with the line that is being run, and in that of the builtin
that is at work. -/
def complain (run : Run) (t : Text) : Run :=
  let builtin := if run.builtin.isEmpty then [] else run.builtin ++ text ": "
  run.report (run.name ++ text ": " ++ Decimal.ofNat run.line ++ text ": " ++ builtin ++ t)

/-- Complains and gives up. -/
def refuse (run : Run) (t : Text) : Run := ((run.complain t).done 2).leave .refusal

/-- Ends a refusal; its status stays. -/
def withoutRefusal (run : Run) : Run :=
  if run.leaving = some .refusal then { run with leaving := none } else run

/-! ## Variables -/

/-- The variable of a name. -/
def lookUp? (run : Run) (name : Text) : Option Variable :=
  run.bindings.find? fun v => v.name == name

/-- The value of the variable of a name. -/
def value? (run : Run) (name : Text) : Option Text := (run.lookUp? name).bind (·.value)

/-- Changes the variable of a name; a variable that is not yet known is made. -/
def alter (run : Run) (name : Text) (change : Variable → Variable) : Run :=
  if (run.lookUp? name).isSome then
    { run with
      bindings := run.bindings.map fun v => if v.name = name then change v else v }
  else { run with bindings := run.bindings ++ [change ⟨name, none, false, false⟩] }

/-- Sets a variable; one that is read only ends the shell.  Setting `OPTIND` starts the search for
options anew. -/
def assign (run : Run) (name value : Text) : Run :=
  if (run.lookUp? name).any (·.readOnly) then run.refuse (name ++ text ": is read only")
  else
    let run := if name = text "OPTIND" then
      { run with optionPlace := ⟨max 1 ((number? value).getD 1), none⟩ } else run
    run.alter name fun v =>
      { v with value := some value, exported := v.exported || run.options.exportAll }

/-- Forgets a variable; one that is read only ends the shell. -/
def unset (run : Run) (name : Text) : Run :=
  if (run.lookUp? name).any (·.readOnly) then
    run.refuse (name ++ text ": is read only")
  else { run with bindings := run.bindings.filter fun v => v.name != name }

/-- The separators of fields. -/
def separators (run : Run) : Text := (run.value? (text "IFS")).getD (text " \t\n")

/-- The letters of the options that are on. -/
def flags (run : Run) : Text :=
  (if run.options.refuseUnset then text "u" else [])
    ++ (if run.options.exportAll then text "a" else [])
    ++ (if run.options.trace then text "x" else [])
    ++ (if run.options.fromInput then text "s" else [])
    ++ (if run.options.noPatterns then text "f" else [])
    ++ (if run.options.leaveOnFailure then text "e" else [])

/-- The value of a parameter, if it has one; all arguments are joined. -/
def parameter? (run : Run) : Parameter → Option Text
  | .named name => run.value? name
  | .position 0 => some run.name
  | .position (n + 1) => run.arguments[n]?
  | .each =>
    if run.arguments.isEmpty then none else some (Text.join (text " ") run.arguments)
  | .joined =>
    if run.arguments.isEmpty then none else some (Text.join (run.separators.take 1) run.arguments)
  | .count => some (Decimal.ofNat run.arguments.length)
  | .status => some (Decimal.ofNat run.status)
  | .process => some (Decimal.ofNat run.process)
  | .background => run.jobs.head?.map fun job => Decimal.ofNat job.process
  | .flags => some run.flags

/-! ## Files -/

/-- The path that a text spells for this run. -/
def path (run : Run) (t : Text) : NamedPath :=
  (run.files.home.append run.directory).append (.ofText (Utf8.decodeReplacing (toOctets t)))

/-- The names on the way from the root to a path, without those that lead upwards. -/
def placeOf (path : NamedPath) : List Text := (Path.Posix.collapse true path.names).reverse

/-- The current directory as a text. -/
def directoryText (run : Run) : Text :=
  ofText (NamedPath.toText ⟨run.directory.root, run.directory.names⟩)

/-- The octets that a path leads to for reading. -/
def open? (run : Run) (t : Text) : Except SystemError Text :=
  if t.isEmpty then .error .notFound
  else
    let path := run.path t
    match (placeOf path).map Text.toString with
    | ["dev", "null"] => .ok []
    | ["dev", "stdin"] => .ok run.input
    | _ => match FileSystem.walk run.files.root [] path.names with
      | .ok (.file content _, _) => .ok (ofOctets content)
      | .ok (.program _, _) => .ok []
      | .ok (.directory _, _) => .error .isDirectory
      | .error error => .error error

/-- A run with another file tree. -/
def withRoot (run : Run) (root : Node) : Run :=
  { run with files := { run.files with root := root } }

/-- The channel that a path leads to for writing; a file that is not there is made, and one that is
there is emptied unless it is written to at its end. -/
def create? (run : Run) (t : Text) (append : Bool) : Except SystemError (Channel × Run) :=
  if t.isEmpty then .error .notFound
  else
    let path := run.path t
    let names := placeOf path
    match names.map Text.toString with
    | ["dev", "null"] => .ok (.nowhere, run)
    | ["dev", "stdout"] => .ok (run.channel 1, run)
    | ["dev", "stderr"] => .ok (run.channel 2, run)
    | _ => match FileSystem.walk run.files.root [] path.names with
      | .ok (.file content executable, _) =>
        let kept := if append then content else []
        .ok (.file names,
          run.withRoot (run.files.root.put names (.file kept executable)))
      | .ok (.program _, _) => .error .permissionDenied
      | .ok (.directory _, _) => .error .isDirectory
      | .error error => match FileSystem.walk run.files.root [] path.names.dropLast with
        | .ok (.directory _, _) =>
          .ok (.file names, run.withRoot (run.files.root.put names (.file [] false)))
        | _ => .error error

/-- The answer to a question about the node that a text leads to. -/
def ask (run : Run) (t : Text) (question : Node → Bool) : Bool :=
  !t.isEmpty && match FileSystem.walk run.files.root [] (run.path t).names with
    | .ok (node, _) => question node
    | .error _ => false

/-! ## Input -/

/-- Takes the whole input. -/
def takeInput (run : Run) : Text × Run := (run.input, { run with input := [] })

/-! ## Other processes -/

/-- Until when commands in the background can write to the outputs of the script. -/
def outputsHeldUntil (run : Run) : Nat :=
  run.jobs.foldl (fun moment job => if job.holdsOutputs then max moment job.endsAt else moment)
    run.heldUntil

/-- A run with all that a process which it started has changed outside of itself. -/
def withEffects (run child : Run) : Run :=
  { run with
    files := child.files, input := child.input, stdout := child.stdout, stderr := child.stderr
    pipes := child.pipes, lastProcess := child.lastProcess, elapsed := child.elapsed
    heldUntil := child.outputsHeldUntil }

/-- A run for a part of the script in a process of its own. -/
def fork (run : Run) : Run :=
  { run with traps := [], jobs := [], actions := [], heldUntil := run.outputsHeldUntil }

/-- A run for another program, which gets the marked variables and nothing else of the shell. -/
def spawn (run : Run) : Run :=
  { run with
    bindings := run.bindings.filter (·.exported), functions := [], options := {}, traps := []
    tested := false, loops := 0, calls := 0, locals := [], line := 1, builtin := []
    jobs := [], actions := [], heldUntil := run.outputsHeldUntil, status := 0
    process := run.lastProcess + 1, lastProcess := run.lastProcess + 1, optionPlace := {} }

/-- Runs something in a process that shares the outputs and the input. -/
def inSubshell (run : Run) (body : Run → Run) : Run :=
  let child := body run.fork
  let run := run.withEffects child
  match child.leaving with
  | some (.shell (.exit status)) => run.done status
  | some (.shell ending) => run.leave (.shell ending)
  | _ => run.done child.status

/-- Runs something with its output one caught. -/
def capture (run : Run) (body : Run → Run) : Text × Run :=
  let index := run.pipes.length
  let after := body ({ run with pipes := [] :: run.pipes }.lead 1 (.pipe index))
  ((after.pipes.head?.getD []).reverse,
    { after with pipes := after.pipes.drop 1, channels := run.channels })

end Run

/-- Runs something as the work of a builtin. -/
def Run.asBuiltin (run : Run) (name : Text) (body : Run → Run) : Run :=
  { body { run with builtin := name } with builtin := run.builtin }

/-- Repeats a round while it asks for more, so many times at most; a run that goes on for longer is
taken to go on for ever.  A round is told the status that the one before has left. -/
def repeatRounds : Nat → (Nat → Run → Run × Bool) → Nat → Run → Run
  | 0, _, _, run => run.leave (.shell .overdue)
  | bound + 1, round, status, run =>
    match round status run with
    | (run, true) => repeatRounds bound round run.status run
    | (run, false) => run

/-- The rounds that a loop may take. -/
def roundLimit : Nat := 100000

/-- A run at the end of a round of a loop, and whether another round may follow. -/
def Run.afterRound (run : Run) : Run × Bool :=
  match run.leaving with
  | none => (run, true)
  | some (.loops levels) =>
    ({ run with leaving := if levels ≤ 1 then none else some (.loops (levels - 1)) }, false)
  | some (.round levels) =>
    if levels ≤ 1 then ({ run with leaving := none }, true)
    else ({ run with leaving := some (.round (levels - 1)) }, false)
  | some _ => (run, false)

end Shell

end DiagnosticRelay
