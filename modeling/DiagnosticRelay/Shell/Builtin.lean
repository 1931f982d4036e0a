import DiagnosticRelay.Shell.Field
import DiagnosticRelay.Shell.Printing
import DiagnosticRelay.Shell.Question

/-!
# What the shell does by itself

The commands of the shell that run no other commands.  Each takes a run and its
arguments and gives the run back, with its status recorded.

Some builtins are *special*: a mistake in one of them ends the shell, while a mistake in any other
is an ordinary failure.
-/

namespace DiagnosticRelay

namespace Shell

namespace Builtin

/-- The builtins that are not special. -/
def plainNames : List Text :=
  [text "[", text "alias", text "bg", text "cd", text "chdir", text "command", text "echo",
    text "false", text "fg", text "getopts", text "hash", text "jobs", text "kill", text "printf",
    text "pwd", text "read", text "test", text "true", text "type", text "ulimit", text "umask",
    text "unalias", text "wait"]

/-- Whether a mistake in the builtin of a name ends the shell. -/
def isSpecial (name : Text) : Bool := specialBuiltins.contains name

/-- Complains about the use of a builtin, with a status. -/
def mistake (run : Run) (name : String) (complaint : Text) (status : Nat) : Run :=
  if isSpecial (text name) then run.refuse complaint else (run.complain complaint).done status

/-! ## Signals -/

/-- The signals by their names and numbers. -/
def signals : List (Text × Nat) := [
  (text "HUP", 1), (text "INT", 2), (text "QUIT", 3), (text "ILL", 4), (text "TRAP", 5),
  (text "ABRT", 6), (text "BUS", 7), (text "FPE", 8), (text "KILL", 9), (text "USR1", 10),
  (text "SEGV", 11), (text "USR2", 12), (text "PIPE", 13), (text "ALRM", 14), (text "TERM", 15),
  (text "STKFLT", 16), (text "CHLD", 17), (text "CONT", 18), (text "STOP", 19), (text "TSTP", 20),
  (text "TTIN", 21), (text "TTOU", 22), (text "URG", 23), (text "XCPU", 24), (text "XFSZ", 25),
  (text "VTALRM", 26), (text "PROF", 27), (text "WINCH", 28), (text "POLL", 29),
  (text "PWR", 30), (text "SYS", 31)]

/-- The signals that a process without a handler does not heed. -/
def unheeded : List Nat := [0, 17, 18, 23, 28]

/-- The signal that a text names or numbers. -/
def signal? (t : Text) : Option Nat :=
  match number? t with
  | some n => if n < 65 then some n else none
  | none =>
    let name := t.map fun c => match c with
      | .char d => .char d.toUpper
      | other => other
    (signals.find? fun entry => entry.1 == name || text "SIG" ++ entry.1 == name).map (·.2)

/-- The name of a signal. -/
def signalName (number : Nat) : Text :=
  ((signals.find? fun entry => entry.2 == number).map (·.1)).getD (Decimal.ofNat number)

/-- What is reported when a process ended by a signal. -/
def signalReport? (number : Nat) : Option Text :=
  match number with
  | 1 => some (text "Hangup")
  | 3 => some (text "Quit")
  | 4 => some (text "Illegal instruction")
  | 5 => some (text "Trace/breakpoint trap")
  | 6 => some (text "Aborted")
  | 7 => some (text "Bus error")
  | 8 => some (text "Floating point exception")
  | 9 => some (text "Killed")
  | 10 => some (text "User defined signal 1")
  | 11 => some (text "Segmentation fault")
  | 12 => some (text "User defined signal 2")
  | 14 => some (text "Alarm clock")
  | 15 => some (text "Terminated")
  | 31 => some (text "Bad system call")
  | _ => none

/-- The name under which a trap is kept; the end of the shell counts as a signal here. -/
def trapName? (t : Text) : Option Text :=
  if t = text "EXIT" ∨ t = text "0" then some (text "EXIT")
  else (signal? t).map signalName

/-- Sends a signal to the process of the run. -/
def strike (run : Run) (number : Nat) : Run :=
  match run.traps.find? fun trap => trap.1 == signalName number with
  | some (_, action) =>
    if number = 9 ∨ number = 19 then run.leave (.shell (.signal number))
    else { run with actions := run.actions ++ [action] }
  | none => if unheeded.contains number then run else run.leave (.shell (.signal number))

/-- Sends a signal to the process of a number, written out. -/
def strikeProcess (run : Run) (number : Nat) (target : Text) : Run :=
  match number? target with
  | none => mistake run "kill" (text "Illegal number: " ++ target) 2
  | some process =>
    if process = run.process then strike run number
    else if run.jobs.any fun job => job.process == process && job.endsAt > run.elapsed then
      if unheeded.contains number then run
      else { run with jobs := run.jobs.map fun job =>
        if job.process = process ∧ job.endsAt > run.elapsed then
          { job with ending := .signal number, endsAt := run.elapsed }
        else job }
    else (mistake run "kill" (text "No such process\n") 1)

/-- The builtin `kill`. -/
def kill (run : Run) (arguments : List Text) : Run :=
  let usage :=
    text "Usage: kill [-s sigspec | -signum | -sigspec] [pid | job]... or\nkill -l [exitstatus]"
  let send (number : Nat) (targets : List Text) : Run :=
    if targets.isEmpty then mistake run "kill" usage 2
    else targets.foldl (fun run target => strikeProcess run number target) (run.done 0)
  match arguments with
  | [] => mistake run "kill" usage 2
  | first :: rest =>
    match first with
    | [.char '-', .char 'l'] =>
      match rest.head? with
      | some status => match number? status with
        | some n =>
          if 0 < n % 128 then (run.print (signalName (n % 128) ++ text "\n")).done 0
          else mistake run "kill" (text "invalid signal number or exit status: " ++ status) 2
        | none => mistake run "kill" (text "Illegal number: " ++ status) 2
      | none =>
        let names := (List.range 64).flatMap fun n => signalName (n + 1) ++ text "\n"
        (run.print names).done 0
    | [.char '-', .char 's'] =>
      match rest with
      | [] => mistake run "kill" (text "No arg for -s option") 2
      | signal :: targets => match signal? signal with
        | none => mistake run "kill" (text "invalid signal number or name: " ++ signal) 2
        | some number => send number targets
    | [.char '-', .char '-'] => send 15 rest
    | .char '-' :: letter :: more => match signal? (letter :: more) with
      | some number => send number rest
      | none => mistake run "kill" (text "Illegal option -" ++ [letter]) 2
    | _ => send 15 arguments

/-- A text in single quotes, so that the shell would read it back. -/
def quoted (t : Text) : Text :=
  if t.contains (.char '\'') then
    text "'" ++ t.flatMap (fun c => if c = .char '\'' then text "'\"'\"'" else [c]) ++ text "'"
  else text "'" ++ t ++ text "'"

/-- The builtin `trap`. -/
def trap (run : Run) (arguments : List Text) : Run :=
  let arguments := if arguments.head? = some (text "--") then arguments.drop 1 else arguments
  match arguments with
  | [] =>
    (run.traps.foldl (fun run entry =>
      run.print (text "trap -- " ++ quoted entry.2 ++ text " " ++ entry.1 ++ text "\n")) run).done 0
  | action :: names =>
    let (action, names) :=
      if names.isEmpty then (text "-", [action])
      else if (number? action).isSome then (text "-", action :: names)
      else (action, names)
    names.foldl (fun run name =>
      match trapName? name with
      | none => (run.report (text "trap: " ++ name ++ text ": bad trap")).done 1
      | some name =>
        let others := run.traps.filter fun entry => entry.1 != name
        { run with traps := if action = text "-" then others else others ++ [(name, action)] })
      (run.done 0)

/-! ## Printing -/

/-- The builtin `printf`; its complaints are heard before its output is seen. -/
def printf (run : Run) (arguments : List Text) : Run :=
  let progress := Printing.printf arguments
  let run := progress.complaints.reverse.foldl
    (fun run complaint => run.complain complaint) run
  (run.print progress.written).done progress.status

/-- Prints for the builtin of a name; a closed output is a failure. -/
def printed (run : Run) (name : String) (t : Text) : Run :=
  if run.channel 1 = .closed && !t.isEmpty then
    mistake run name (text name ++ text ": I/O error") 1
  else (run.print t).done 0

/-! ## Variables -/

/-- The name and the value that an argument such as `name=value` gives. -/
def splitAssignment (argument : Text) : Text × Option Text :=
  match Text.cutAt? (.char '=') argument with
  | some (name, value) => (name, some value)
  | none => (argument, none)

/-- Marks the variables that some arguments name, which may be set at the same time. -/
def markAll (run : Run) (builtin : String) (arguments : List Text) (mark : Variable → Variable) :
    Run :=
  arguments.foldl (fun run argument =>
    if !run.isActive then run
    else
      let (name, value) := splitAssignment argument
      if !isName name then
        mistake run builtin (argument ++ text ": bad variable name") 2
      else
        let run := match value with
          | some value => run.assign name value
          | none => run
        if run.isActive then run.alter name mark else run)
    (run.done 0)

/-- Prints the variables that satisfy a condition, each in the way in which it would be marked
again. -/
def listMarked (run : Run) (builtin : String) (condition : Variable → Bool) : Run :=
  let names := run.bindings.filter condition
  ((names.mergeSort fun a b => Text.le a.name b.name).foldl (fun run v =>
    run.print (text builtin ++ text " " ++ v.name
      ++ (match v.value with | some value => text "=" ++ quoted value | none => []) ++ text "\n"))
    run).done 0

/-- The builtins `export` and `readonly`. -/
def marking (run : Run) (builtin : String) (condition : Variable → Bool)
    (mark : Variable → Variable) (arguments : List Text) : Run :=
  let names := arguments.filter (· != text "-p")
  if names.isEmpty then listMarked run builtin condition else markAll run builtin names mark

/-- The builtin `unset`. -/
def unset (run : Run) (arguments : List Text) : Run :=
  let functions := arguments.head? == some (text "-f")
  let hasOption := functions || arguments.head? == some (text "-v")
  let names := if hasOption then arguments.drop 1 else arguments
  names.foldl (fun run name =>
    if !run.isActive then run
    else if functions then
      { run with functions := run.functions.filter fun entry => entry.1 != name }
    else if !isName name then mistake run "unset" (name ++ text ": bad variable name") 2
    else run.unset name) (run.done 0)

/-- The builtin `local`. -/
def declareLocal (run : Run) (arguments : List Text) : Run :=
  if run.calls = 0 then run.refuse (text "not in a function")
  else arguments.foldl (fun run argument =>
    let (name, value) := splitAssignment argument
    let before := (run.lookUp? name).getD ⟨name, none, false, false⟩
    let run := { run with locals := before :: run.locals }
    match value with
    | some value => run.assign name value
    | none => run) (run.done 0)

/-- Switches an option, known by its letter. -/
def switch? (options : Options) (on : Bool) : CodePoint → Option Options
  | .char 'e' => some { options with leaveOnFailure := on }
  | .char 'u' => some { options with refuseUnset := on }
  | .char 'x' => some { options with trace := on }
  | .char 'f' => some { options with noPatterns := on }
  | .char 'a' => some { options with exportAll := on }
  | .char 's' => some { options with fromInput := on }
  | c => if (text "CIbimnvVE").contains c then some options else none

/-- The letter of the option with a long name. -/
def optionLetter? (name : Text) : Option CodePoint :=
  match name.toString with
  | "errexit" => some (.char 'e')
  | "nounset" => some (.char 'u')
  | "xtrace" => some (.char 'x')
  | "noglob" => some (.char 'f')
  | "allexport" => some (.char 'a')
  | "stdin" => some (.char 's')
  | "noclobber" | "verbose" | "noexec" | "notify" | "monitor" | "ignoreeof" | "interactive" | "vi"
  | "emacs" | "nolog" | "debug" => some (.char 'b')
  | _ => none

/-- The options at the head of some arguments, and the arguments behind them if there are any or two
hyphens ask for none. -/
def readOptions : Nat → Options → List Text → Except Text (Options × Option (List Text))
  | 0, options, _ => .ok (options, none)
  | _ + 1, options, [] => .ok (options, none)
  | fuel + 1, options, first :: rest =>
    match first with
    | .char '-' :: .char '-' :: [] => .ok (options, some rest)
    | [.char '-'] => .ok (options, if rest.isEmpty then none else some rest)
    | sign :: letters =>
      if (sign = .char '-' ∨ sign = .char '+') ∧ !letters.isEmpty then
        let on := sign == .char '-'
        if letters = text "o" then
          match rest with
          | [] => .ok (options, none)
          | name :: rest =>
            match (optionLetter? name).bind (switch? options on) with
            | some options => readOptions fuel options rest
            | none => .error (text "Illegal option " ++ [sign] ++ text "o " ++ name)
        else
          match letters.foldlM (fun options letter =>
              match switch? options on letter with
              | some options => Except.ok options
              | none => Except.error (text "Illegal option " ++ [sign, letter])) options with
          | .ok options => readOptions fuel options rest
          | .error complaint => .error complaint
      else .ok (options, some (first :: rest))
    | [] => .ok (options, some (first :: rest))

/-- The builtin `set`. -/
def set (run : Run) (arguments : List Text) : Run :=
  match readOptions (arguments.length + 1) run.options arguments with
  | .error complaint => mistake run "set" complaint 2
  | .ok (options, given) =>
    let run := { run.done 0 with options := options }
    match given with
    | some arguments => { run with arguments := arguments, optionPlace := {} }
    | none => run

/-- The builtin `shift`. -/
def shift (run : Run) (arguments : List Text) : Run :=
  match arguments.head? with
  | none =>
    if run.arguments.isEmpty then mistake run "shift" (text "can't shift that many") 2
    else { run.done 0 with arguments := run.arguments.drop 1, optionPlace := {} }
  | some argument => match number? argument with
    | none => mistake run "shift" (text "Illegal number: " ++ argument) 2
    | some n =>
      if run.arguments.length < n then mistake run "shift" (text "can't shift that many") 2
      else { run.done 0 with arguments := run.arguments.drop n, optionPlace := {} }

/-! ## Input -/

/-- The line at the head of an input as marks, whether its end was found, and what follows it.
Unless it is read raw, a backslash quotes the next octet and joins lines. -/
def takeLine (raw : Bool) : Text → List Mark × Bool × Text
  | [] => ([], false, [])
  | .char '\n' :: rest => ([], true, rest)
  | .char '\\' :: c :: rest =>
    if raw then
      if c = .char '\n' then ([(.char '\\', false)], true, rest)
      else
        let (found, ended, after) := takeLine raw rest
        ((.char '\\', false) :: (c, false) :: found, ended, after)
    else
      let (found, ended, after) := takeLine raw rest
      if c = .char '\n' then (found, ended, after) else ((c, true) :: found, ended, after)
  | c :: rest =>
    let (found, ended, after) := takeLine raw rest
    ((c, false) :: found, ended, after)

/-- The first field of a line, and what follows it and its separator. -/
def takeField (separators : Text) (found : List Mark) : Text × List Mark :=
  let separates (mark : Mark) : Bool := !mark.2 && separators.contains mark.1
  let soft (mark : Mark) : Bool := separates mark && isSpace mark.1
  let found := found.dropWhile soft
  let field := found.takeWhile fun mark => !separates mark
  let rest := (found.drop field.length).dropWhile soft
  let rest := match rest with
    | mark :: more => if separates mark && (found.drop field.length).any separates then
        (if soft mark then rest else more.dropWhile soft) else rest
    | [] => []
  (textOf field, rest)

/-- Some marks up to the first separator behind which there are only separators and quoted marks. -/
def withoutTail (separates : Mark → Bool) (found : List Mark) : List Mark :=
  let after := (found.reverse.takeWhile fun mark => mark.2 || separates mark).reverse
  found.take (found.length - after.length) ++ after.takeWhile fun mark => !separates mark

/-- Gives the fields of a line to some variables; the last takes all that is left. -/
def assignFields (run : Run) (found : List Mark) : List Text → Run
  | [] => run
  | [name] =>
    let soft (mark : Mark) : Bool :=
      !mark.2 && run.separators.contains mark.1 && isSpace mark.1
    let rest := withoutTail soft (found.dropWhile soft)
    let (field, more) := takeField run.separators rest
    run.assign name (if more.isEmpty then field else textOf rest)
  | name :: names =>
    let (field, rest) := takeField run.separators found
    let run := run.assign name field
    if run.isActive then assignFields run rest names else run

/-- The names among the arguments of `read`; the flag tells that a prompt comes next. -/
def readNames : Bool → List Text → List Text
  | _, [] => []
  | true, _ :: rest => readNames false rest
  | false, first :: rest =>
    if first = text "-r" then readNames false rest
    else if first = text "-p" then readNames true rest
    else if first = text "--" then rest
    else first :: rest

/-- The builtin `read`. -/
def read (run : Run) (arguments : List Text) : Run :=
  let raw := arguments.contains (text "-r")
  match readNames false arguments with
  | [] => mistake run "read" (text "arg count") 2
  | names =>
    let (found, ended, rest) := takeLine raw run.input
    let run := assignFields { run with input := rest } found names
    if run.isActive then run.done (if ended then 0 else 1) else run

/-! ## The rest -/

/-- The builtin `cd`. -/
def changeDirectory (run : Run) (arguments : List Text) : Run :=
  let arguments := arguments.filter fun argument =>
    !(argument == text "-L" || argument == text "-P" || argument == text "--")
  let back := arguments.head? == some (text "-")
  let target := match arguments with
    | [] => (run.value? (text "HOME")).getD []
    | first :: _ => if back then (run.value? (text "OLDPWD")).getD run.directoryText else first
  if target.isEmpty then run.done 0
  else
    let path := run.path target
    match FileSystem.walk run.files.root [] path.names with
    | .ok (.directory _, _) =>
      let before := run.directoryText
      let run := { run with directory := ⟨path.root, Run.placeOf path⟩ }
      let run := (run.assign (text "OLDPWD") before).assign (text "PWD") run.directoryText
      let run := if back then run.print (run.directoryText ++ text "\n") else run
      if run.isActive then run.done 0 else run
    | _ => mistake run "cd" (text "can't cd to " ++ target) 2

/-- The builtin `test` under one of its names. -/
def test (run : Run) (name : String) (arguments : List Text) : Run :=
  match Question.answer run arguments with
  | .ok answer => run.done (if answer then 0 else 1)
  | .error complaint => mistake run name complaint 2

/-- The builtin `wait`. -/
def wait (run : Run) (arguments : List Text) : Run :=
  match arguments with
  | [] => (run.waitUntil (run.jobs.foldl (fun n job => max n job.endsAt) run.elapsed))
  | _ => arguments.foldl (fun run argument =>
      match number? argument with
      | none => mistake run "wait" (text "Illegal number: " ++ argument) 2
      | some process => match run.jobs.find? fun job => job.process == process with
        | none => run.done 127
        | some job =>
          let run := run.waitUntil job.endsAt
          if !run.isActive then run
          else match job.ending with
            | .exit status => run.done status
            | .signal number =>
              ((signalReport? number).elim run run.report).done (128 + number)
            | .overdue => run.leave (.shell .overdue)) run

/-- Leaves loops, or a round of them. -/
def leaveLoops (run : Run) (name : String) (leaving : Nat → Leave) (arguments : List Text) : Run :=
  match arguments.head? with
  | none => if run.loops = 0 then run.done 0 else (run.done 0).leave (leaving 1)
  | some argument => match number? argument with
    | some (n + 1) =>
      if run.loops = 0 then run.done 0 else (run.done 0).leave (leaving (min (n + 1) run.loops))
    | _ => mistake run name (text "Illegal number: " ++ argument) 2

/-- What follows a letter in the letters of options, if it is one of them. -/
def findOption? (letter : CodePoint) : Text → Option Text
  | [] => none
  | c :: rest =>
    if c = letter then some rest
    else match rest with
      | .char ':' :: rest => findOption? letter rest
      | rest => findOption? letter rest

/-- The letters that are left to search, and the index of the word behind them. -/
def optionLetters (words : List Text) (place : OptionPlace) : Text × Nat :=
  let current := match place.used with
    | some used => if 1 < place.next then ((words[place.next - 2]?).getD []).drop used else []
    | none => []
  if !current.isEmpty then (current, place.next)
  else match words[place.next - 1]? with
    | some (.char '-' :: letter :: letters) =>
      (if letter = .char '-' ∧ letters.isEmpty then [] else letter :: letters, place.next + 1)
    | _ => ([], place.next)

/-- Records what a search for an option has found. -/
def foundOption (run : Run) (name : Text) (letter : CodePoint) (place : OptionPlace) : Run :=
  let run := run.alter (text "OPTIND") fun v =>
    { v with value := some (Decimal.ofNat place.next) }
  { (run.assign name [letter]).done 0 with optionPlace := place }

/-- The builtin `getopts`. -/
def getOptions (run : Run) (arguments : List Text) : Run :=
  match arguments with
  | letters :: name :: given =>
    let words := if given.isEmpty then run.arguments else given
    let silent := letters.head? == some (.char ':')
    let argument (run : Run) (value : Text) : Run := run.assign (text "OPTARG") value
    let refused (run : Run) (letter : CodePoint) (complaint : Text) : Run :=
      if silent then argument run [letter]
      else (run.report complaint).unset (text "OPTARG")
    match optionLetters words run.optionPlace with
    | ([], next) => (foundOption run name (.char '?') ⟨next, none⟩).done 1
    | (letter :: more, next) =>
      let behind : OptionPlace :=
        ⟨next, some (((words[next - 2]?).getD []).length - more.length)⟩
      match findOption? letter letters with
      | none =>
        let run := refused run letter (text "Illegal option -" ++ [letter])
        foundOption run name (.char '?') behind
      | some (.char ':' :: _) =>
        if !more.isEmpty then foundOption (argument run more) name letter ⟨next, none⟩
        else match words[next - 1]? with
          | some value => foundOption (argument run value) name letter ⟨next + 1, none⟩
          | none =>
            let run := refused run letter (text "No arg for -" ++ [letter] ++ text " option")
            foundOption run name (if silent then .char ':' else .char '?') ⟨next, none⟩
      | some _ => foundOption (argument run []) name letter behind
  | _ => mistake run "getopts" (text "Usage: getopts optstring var [arg...]") 2

/-- Runs the builtin of a name, if it is one that runs no other commands. -/
def run? (run : Run) (name : Text) (arguments : List Text) : Option Run :=
  match name.toString with
  | ":" | "true" => some (run.done 0)
  | "false" => some (run.done 1)
  | "echo" => some (printed run "echo" (Printing.echo arguments))
  | "printf" => some (printf run arguments)
  | "pwd" => some (printed run "pwd" (run.directoryText ++ text "\n"))
  | "cd" | "chdir" => some (changeDirectory run arguments)
  | "shift" => some (shift run arguments)
  | "set" => some (set run arguments)
  | "unset" => some (unset run arguments)
  | "export" => some (marking run "export" (·.exported) (fun v => { v with exported := true })
      arguments)
  | "readonly" => some (marking run "readonly" (·.readOnly) (fun v => { v with readOnly := true })
      arguments)
  | "local" => some (declareLocal run arguments)
  | "read" => some (read run arguments)
  | "test" => some (test run "test" arguments)
  | "[" => some (
      if arguments.getLast? = some (text "]") then test run "[" arguments.dropLast
      else mistake run "[" (text "missing ]") 2)
  | "kill" => some (kill run arguments)
  | "trap" => some (trap run arguments)
  | "wait" => some (wait run arguments)
  | "umask" => some (if arguments.isEmpty then printed run "umask" (text "0022\n") else run.done 0)
  | "break" => some (leaveLoops run "break" .loops arguments)
  | "continue" => some (leaveLoops run "continue" .round arguments)
  | "getopts" => some (getOptions run arguments)
  | "exit" => some (match arguments.head? with
      | none => run.exit run.status
      | some argument => match number? argument with
        | some n => run.exit (n % 256)
        | none => run.refuse (text "Illegal number: " ++ argument))
  | "return" =>
    let leaving : Leave := if run.calls = 0 then .shell (.exit run.status) else .function
    some (match arguments.head? with
      | none => run.leave leaving
      | some argument => match number? argument with
        | some n =>
          if run.calls = 0 then run.exit (n % 256) else (run.done (n % 256)).leave .function
        | none => run.refuse (text "Illegal number: " ++ argument))
  | "alias" | "bg" | "fg" | "hash" | "jobs" | "times" | "ulimit" | "unalias" => some (run.done 0)
  | _ => none

end Builtin

end Shell

end DiagnosticRelay
