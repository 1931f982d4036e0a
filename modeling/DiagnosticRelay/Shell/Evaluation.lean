import DiagnosticRelay.Shell.Reader
import DiagnosticRelay.Shell.Tool

/-!
# Running shell scripts

Expanding words and running commands call each other: an expansion may run a script, and a
command expands its words.  Everything is done under a bound on the depth of these calls,
so that running a script always comes to an end; a script deeper than the bound leaves with
a status of its own.

A command works on the run and hands it on.  Parentheses, pipelines and expansions run
their commands in a process of their own: what these change in variables and directories is
forgotten afterwards, and what they write, read and wait for is not.
-/

namespace DiagnosticRelay

namespace Shell

/-! ## Before anything runs -/

/-- The interpreter and its argument that the first line of a script names. -/
def interpreterLine? (content : List UInt8) : Option (Text × Option Text) :=
  match ofOctets content with
  | .char '#' :: .char '!' :: rest =>
    let isBlank (c : CodePoint) : Bool := c == .char ' ' || c == .char '\t'
    let trim (t : Text) : Text :=
      ((t.dropWhile isBlank).reverse.dropWhile isBlank).reverse
    let line := trim (rest.takeWhile (· != .char '\n'))
    let program := line.takeWhile fun c => !isBlank c
    let argument := trim (line.drop program.length)
    if program.isEmpty then none
    else some (program, if argument.isEmpty then none else some argument)
  | _ => none

/-- What the search for a program finds. -/
inductive Located where
  | found (path : Text)
  | denied
  | missing
  deriving DecidableEq

/-- What lies at the path of a program. -/
def Run.locateAt (run : Run) (path : Text) : Located :=
  if run.ask path Node.isProgram then .found path
  else if run.ask path fun _ => true then .denied
  else .missing

/-- The directories in which programs are searched for. -/
def Run.searchPath (run : Run) : List Text :=
  Text.splitOn (.char ':') ((run.value? (text "PATH")).getD
    (text "/usr/local/sbin:/usr/local/bin:/usr/sbin:/usr/bin:/sbin:/bin"))

/-- The program of a name. -/
def Run.locate (run : Run) (name : Text) : Located :=
  if name.contains Path.Posix.slash then run.locateAt name
  else run.searchPath.foldl (fun located directory =>
    match located with
    | .found path => .found path
    | before =>
      let path := if directory.isEmpty then name else directory ++ text "/" ++ name
      match run.locateAt path with
      | .found path => .found path
      | .denied => .denied
      | .missing => before) .missing

/-- What a name stands for as a command, in the words of `type`, and in those of `command -v`. -/
def Run.describe? (run : Run) (name : Text) : Option (Text × Text) :=
  if keywords.contains name then some (text "is a shell keyword", name)
  else if run.functions.any fun entry => entry.1 == name then
    some (text "is a shell function", name)
  else if Builtin.isSpecial name then some (text "is a special shell builtin", name)
  else if Builtin.plainNames.contains name then some (text "is a shell builtin", name)
  else match run.locate name with
    | .found path => some (text "is " ++ path, path)
    | _ => none

/-- A word whose tilde at the start stands for the home directory. -/
def Run.withHome (run : Run) (w : Word) : Word :=
  match w with
  | .literal (.char '~' :: t) false :: rest =>
    if t.head?.all (· == Path.Posix.slash) && (!t.isEmpty || rest.isEmpty) then
      match run.value? (text "HOME") with
      | some home => .literal home true :: .literal t false :: rest
      | none => w
    else w
  | _ => w

/-- Adds a text to some fields; it is split unless it was quoted or nothing is to be split. -/
def Run.addText (run : Run) (splits quoted : Bool) (fields : Fields) (t : Text) : Fields :=
  if splits && !quoted then fields.split run.separators t else fields.extend (marks quoted t)

/-- Adds the value of a parameter to some fields. -/
def Run.addParameter (run : Run) (splits quoted : Bool) (fields : Fields) (parameter : Parameter) :
    Fields :=
  let add (fields : Fields) (t : Text) : Fields := run.addText splits quoted fields t
  let value := (run.parameter? parameter).getD []
  match parameter with
  | .each => if splits then Fields.each add fields run.arguments else add fields value
  | .joined => if splits && !quoted then Fields.each add fields run.arguments else add fields value
  | _ => add fields value

/-- A run that has stopped if a parameter without a value is not to be used. -/
def Run.demanding (run : Run) (parameter : Parameter) : Run :=
  if run.options.refuseUnset && (run.parameter? parameter).isNone
      && parameter != .each && parameter != .joined then
    run.refuse (parameter.name ++ text ": parameter not set")
  else run

/-- The wording for a file that cannot be opened for reading or made. -/
def openingFailure (creating : Bool) (path : Text) (error : SystemError) : Text :=
  let why := match error with
    | .notFound | .notDirectory =>
      text (if creating then "Directory nonexistent" else "No such file")
    | error => error.description
  text (if creating then "cannot create " else "cannot open ") ++ path ++ text ": " ++ why

/-- Whether a redirection changes the input. -/
def isInput : Redirection → Bool
  | .read 0 _ | .document 0 _ | .follow 0 _ => true
  | _ => false

/-- A run with some variables set and marked for other programs. -/
def Run.withVariables (run : Run) (values : List (Text × Text)) : Run :=
  values.foldl (fun run (name, value) =>
    let run := run.assign name value
    if run.isActive then run.alter name fun v => { v with exported := true } else run) run

/-- A run with the variables of some names as they were in another run. -/
def Run.restoring (run before : Run) (names : List Text) : Run :=
  names.foldl (fun run name =>
    match before.lookUp? name with
    | some v => run.alter name fun _ => v
    | none => { run with bindings := run.bindings.filter fun v => v.name != name }) run

/-- Whether a failure of a command ends a shell that leaves on failures; the parts of other commands
have been asked already. -/
def Command.endsOnFailure : Command → Bool
  | .simple .. | .pipeline _ | .subshell _ | .redirected .. => true
  | _ => false

/-- A run that has come to a line. -/
def Run.atLine (run : Run) (line : Nat) : Run := { run with line := line }

/-- Whether one of the outputs of a run leads to an output of the script. -/
def Run.canWriteOut (run : Run) : Bool :=
  [run.channel 1, run.channel 2].any fun channel => channel == .stdout || channel == .stderr

/-- The run of a shell at its start. -/
def Run.asShell (run : Run) : Run :=
  let run := run.alter (text "PWD") fun v =>
    { v with value := some run.directoryText, exported := true }
  let run := run.alter (text "IFS") fun v =>
    { v with value := some (text " \t\n"), exported := false }
  run.alter (text "OPTIND") fun v => { v with value := some (text "1") }

/-- What the words before the script of a shell ask for: its options, whether the script is given in
place, and the words behind. -/
def shellOptions : Nat → Options → Bool → List Text → Except Text (Options × Bool × List Text)
  | 0, options, inPlace, words => .ok (options, inPlace, words)
  | fuel + 1, options, inPlace, words =>
    match words with
    | (sign :: letters) :: rest =>
      if (sign = .char '-' ∨ sign = .char '+') ∧ !letters.isEmpty then
        if letters = text "-" then .ok (options, inPlace, rest)
        else
          let others := letters.filter fun c => c != .char 'c' && c != .char 'o'
          let inPlace := inPlace || letters.contains (.char 'c')
          let on := sign == .char '-'
          match others.foldlM (fun options letter =>
              match Builtin.switch? options on letter with
              | some options => Except.ok options
              | none => Except.error (text "Illegal option " ++ [sign, letter])) options with
          | .error complaint => .error complaint
          | .ok options =>
            if letters.contains (.char 'o') then
              match (rest.head?.bind Builtin.optionLetter?).bind (Builtin.switch? options on) with
              | some options => shellOptions fuel options inPlace (rest.drop 1)
              | none => .error (text "Illegal option " ++ [sign] ++ text "o " ++ rest.head?.getD [])
            else shellOptions fuel options inPlace rest
      else .ok (options, inPlace, words)
    | _ => .ok (options, inPlace, words)

/-- The number of calls of functions inside each other that a shell allows. -/
def callLimit : Nat := 1000

/-! ## Words and commands -/

mutual

/-- Adds a part of a word to some fields.  Literal text is split only inside an expansion. -/
def expandPart : Nat → Bool → Bool → Run × Fields → WordPart → Run × Fields
  | 0, _, _, (run, fields), _ => (run.exit 2, fields)
  | fuel + 1, splits, inside, (run, fields), part =>
    if !run.isActive then (run, fields)
    else match part with
    | .literal t quoted => (run, run.addText (splits && inside) quoted fields t)
    | .parameter parameter quoted =>
      (run.demanding parameter, run.addParameter splits quoted fields parameter)
    | .size parameter quoted =>
      let size := ((run.parameter? parameter).getD []).length
      (run.demanding parameter, run.addText splits quoted fields (Decimal.ofNat size))
    | .fallback parameter kind emptyCounts word quoted =>
      let value := run.parameter? parameter
      let isThere := value.any fun t => !(emptyCounts && t.isEmpty)
      let whole (_ : Unit) : Run × Text := expandWhole fuel run word
      match isThere, kind with
      | true, .replace => word.foldl (expandPart fuel splits true) (run, fields)
      | false, .replace => (run, fields)
      | true, _ => (run, run.addParameter splits quoted fields parameter)
      | false, .use => word.foldl (expandPart fuel splits true) (run, fields)
      | false, .assign =>
        let (run, t) := whole ()
        if !run.isActive then (run, fields)
        else match parameter with
          | .named name => (run.assign name t, run.addText splits quoted fields t)
          | parameter => (run.refuse (parameter.name ++ text ": bad variable name"), fields)
      | false, .fail =>
        let (run, t) := whole ()
        if !run.isActive then (run, fields)
        else
          let t := if !word.isEmpty then t
            else text (if emptyCounts then "parameter not set or null" else "parameter not set")
          (run.refuse (parameter.name ++ text ": " ++ t), fields)
    | .trim parameter atEnd longest pattern quoted =>
      let value? := run.parameter? parameter
      let value := value?.getD []
      let (after, found) := (if value?.isSome then pattern else []).foldl
        (expandPart fuel false false) (run.demanding parameter, {})
      let pattern := Pattern.read found.toList.flatten
      let t := if atEnd then pattern.trimEnd longest value else pattern.trimStart longest value
      (after, after.addText splits quoted fields t)
    | .output commands quoted =>
      let (t, after) := run.capture fun run =>
        run.inSubshell fun run =>
          finish fuel (runList fuel { run with tested := false, status := run.status } commands)
      let t := (t.reverse.dropWhile (· == .char '\n')).reverse.filter (·.value != 0)
      let after := { after with status := run.status, outputStatus := after.status }
      (after, after.addText splits quoted fields t)
    | .arithmetic expression quoted =>
      let (run, t) := expandWhole fuel run expression
      if !run.isActive then (run, fields)
      else match Arithmetic.evaluate (fun name => (run.value? name).getD []) t with
        | .error failure => (run.refuse (failure.message t), fields)
        | .ok (z, assigned) =>
          let run := assigned.foldl (fun run (name, z) => run.assign name (Decimal.ofInt z)) run
          (run, run.addText splits quoted fields (Decimal.ofInt z))
    | .malformed => (run.refuse (text "Bad substitution"), fields)

/-- The marks of a word that is not split. -/
def expandMarks : Nat → Run → Word → Run × List Mark
  | 0, run, _ => (run.exit 2, [])
  | fuel + 1, run, w =>
    let (run, fields) := (run.withHome w).foldl (expandPart fuel false false) (run, {})
    (run, fields.toList.flatten)

/-- The text of a word that is not split. -/
def expandWhole : Nat → Run → Word → Run × Text
  | 0, run, _ => (run.exit 2, [])
  | fuel + 1, run, w =>
    let (run, found) := expandMarks fuel run w
    (run, textOf found)

/-- The fields of some words.  Behind the name of a builtin that sets variables, words that look
like assignments are not split. -/
def expandFields : Nat → Run → List Word → Run × List Text
  | 0, run, _ => (run.exit 2, [])
  | fuel + 1, run, words =>
    let setsVariables := (words.head?.bind bareText?).any
      [text "export", text "readonly", text "local"].contains
    words.foldl (fun (run, found) w =>
      if !run.isActive then (run, found)
      else if setsVariables && (Reading.assignment? w).isSome then
        let (run, t) := expandWhole fuel run w
        (run, found ++ [t])
      else
        let (run, fields) := (run.withHome w).foldl (expandPart fuel true false) (run, {})
        (run, found ++ fields.toList.flatMap run.paths)) (run, [])

/-- The values that some assignments give. -/
def expandAssignments : Nat → Run → List (Text × Word) → Run × List (Text × Text)
  | 0, run, _ => (run.exit 2, [])
  | fuel + 1, run, assignments =>
    assignments.foldl (fun (run, found) (name, w) =>
      if !run.isActive then (run, found)
      else
        let (run, t) := expandWhole fuel run w
        (run, found ++ [(name, t)])) (run, [])

/-- Leads inputs and outputs as a redirection asks; the answer tells whether that was possible. -/
def redirect : Nat → Run × Bool → Redirection → Run × Bool
  | 0, (run, _), _ => (run.exit 2, false)
  | fuel + 1, (run, possible), redirection =>
    if !possible then (run, possible)
    else match redirection with
    | .write number append path =>
      let (run, t) := expandWhole fuel run path
      if !run.isActive then (run, false)
      else match run.create? t append with
        | .ok (channel, run) => (run.lead number channel, true)
        | .error error => (run.complain (openingFailure true t error), false)
    | .read number path =>
      let (run, t) := expandWhole fuel run path
      if !run.isActive then (run, false)
      else match run.open? t with
        | .ok content => (if number = 0 then { run with input := content } else run, true)
        | .error error => (run.complain (openingFailure false t error), false)
    | .document number body =>
      let (run, t) := expandWhole fuel run body
      (if number = 0 then { run with input := t } else run, run.isActive)
    | .follow number target =>
      let (run, t) := expandWhole fuel run target
      if !run.isActive then (run, false)
      else if t = text "-" then
        (if number = 0 then { run with input := [] } else run.lead number .closed, true)
      else match number? t with
        | some other =>
          if number = 0 || other = 0 then (run, true)
          else if run.channel other = .closed then
            (run.complain (t ++ text ": Bad file descriptor"), false)
          else (run.lead number (run.channel other), true)
        | none => (run.refuse (text "Syntax error: Bad fd number"), false)

/-- Runs something with inputs and outputs led elsewhere, and leads them back.  If they cannot be
led there, nothing is run. -/
def redirected : Nat → Run → List Redirection → (Run → Run) → Run
  | 0, run, _, _ => run.exit 2
  | fuel + 1, run, redirections, body =>
    let (after, possible) := redirections.foldl (redirect fuel) (run, true)
    let after := if possible then body after else if after.isActive then after.done 2 else after
    { after with
      channels := run.channels
      input := if redirections.any isInput then run.input else after.input }

/-- Runs commands one after another until the run leaves. -/
def runList : Nat → Run → List Command → Run
  | 0, run, _ => run.exit 2
  | fuel + 1, run, commands =>
    commands.foldl (fun run command =>
      if run.isActive then runCommand fuel run command else run) run

/-- Runs one command. -/
def runCommand : Nat → Run → Command → Run
  | 0, run, _ => run.exit 2
  | fuel + 1, run, command =>
    let tested (run : Run) (body : Run → Run) : Run :=
      { body { run with tested := true } with tested := run.tested }
    let after := match command with
      | .simple line assignments words redirections =>
        runActions fuel (runSimple fuel (run.atLine line) assignments words redirections)
      | .redirected line command redirections =>
        redirected fuel (run.atLine line) redirections fun run => runCommand fuel run command
      | .pipeline commands => runPipeline fuel run run.elapsed none commands
      | .negated command =>
        let run := tested run fun run => runCommand fuel run command
        if run.isActive then run.done (if run.status = 0 then 1 else 0) else run
      | .both first second =>
        let run := tested run fun run => runCommand fuel run first
        if run.isActive && run.status = 0 then runCommand fuel run second else run
      | .either first second =>
        let run := tested run fun run => runCommand fuel run first
        if run.isActive && run.status != 0 then runCommand fuel run second else run
      | .background command =>
        let start := { run.fork with input := [] }
        let child := finish fuel (runCommand fuel start command)
        let ending := match child.leaving with
          | some (.shell ending) => ending
          | _ => .exit child.status
        let number := child.lastProcess + 1
        { run.withEffects child with
          input := run.input, elapsed := run.elapsed, status := 0, lastProcess := number
          jobs := ⟨number, ending, max child.elapsed run.elapsed, holdsOutputs fuel start command⟩
            :: run.jobs }
      | .group commands => runList fuel run commands
      | .subshell commands =>
        run.inSubshell fun run => finish fuel (runList fuel run commands)
      | .branch condition yes no =>
        let run := tested run fun run => runList fuel run condition
        if !run.isActive then run
        else if run.status = 0 then runList fuel run yes
        else if no.isEmpty then run.done 0
        else runList fuel run no
      | .loop untilTrue condition body =>
        let round (before : Nat) (run : Run) : Run × Bool :=
          let run := tested run fun run => runList fuel run condition
          if !run.isActive then run.afterRound
          else if (run.status = 0) = untilTrue then (run.done before, false)
          else (runList fuel run body).afterRound
        let after := repeatRounds roundLimit round 0 { run with loops := run.loops + 1 }
        { after with loops := run.loops }
      | .each line name words body =>
        let (run, items) := match words with
          | none => (run, run.arguments)
          | some words => expandFields fuel (run.atLine line) words
        let (after, _) := items.foldl (fun (run, goesOn) item =>
            if !goesOn || !run.isActive then (run, false)
            else
              let run := run.assign name item
              if run.isActive then (runList fuel run body).afterRound else (run, false))
          ({ run with
              loops := run.loops + 1,
              status := if items.isEmpty && run.isActive then 0 else run.status }, true)
        { after with loops := run.loops }
      | .choose line subject arms =>
        let (run, whole) := expandWhole fuel (run.atLine line) subject
        if !run.isActive then run else runArms fuel run whole arms
      | .define name body =>
        { run.done 0 with
          functions := (name, body) :: run.functions.filter fun entry => entry.1 != name }
    if after.isActive && after.options.leaveOnFailure && after.status != 0 && !after.tested
        && command.endsOnFailure then
      after.exit after.status
    else after

/-- Whether a command in a process of its own can write to the outputs of the script.  Redirections
of the whole command are those of its process. -/
def holdsOutputs : Nat → Run → Command → Bool
  | 0, _, _ => true
  | fuel + 1, run, command =>
    match command with
    | .simple _ _ _ redirections | .redirected _ _ redirections =>
      let (run, _) := redirections.foldl (redirect fuel) (run, true)
      run.canWriteOut
    | .pipeline commands => commands.any (holdsOutputs fuel run)
    | _ => run.canWriteOut

/-- Runs the commands of the first arm with a pattern that a text fits. -/
def runArms : Nat → Run → Text → List (List Word × List Command) → Run
  | 0, run, _, _ => run.exit 2
  | _ + 1, run, _, [] => run.done 0
  | fuel + 1, run, whole, (patterns, commands) :: arms =>
    let (run, fits) := patterns.foldl (fun (run, fits) w =>
      if fits || !run.isActive then (run, fits)
      else
        let (run, found) := expandMarks fuel run w
        (run, (Pattern.read found).fits whole)) (run, false)
    if !run.isActive then run
    else if fits && commands.isEmpty then run.done 0
    else if fits then runList fuel run commands
    else runArms fuel run whole arms

/-- Runs the commands of a pipeline that started at a moment; the input of the first is that of the
script, the input of any other is what the one before has written. -/
def runPipeline : Nat → Run → Nat → Option Text → List Command → Run
  | 0, run, _, _, _ => run.exit 2
  | _ + 1, run, _, _, [] => run
  | fuel + 1, run, start, input, command :: commands =>
    let body (run : Run) : Run :=
      run.inSubshell fun run => finish fuel (runCommand fuel
        { run with elapsed := start, input := input.getD run.input } command)
    let settle (after : Run) : Run :=
      { after with
        elapsed := max run.elapsed after.elapsed
        input := if input.isSome then run.input else after.input }
    if commands.isEmpty then settle (body run)
    else
      let (t, after) := run.capture body
      let after := settle after
      let last := runPipeline fuel { after with leaving := none, channels := run.channels } start
        (some t) commands
      if after.isActive then last else { last with leaving := after.leaving }

/-- Runs the actions that signals have asked for. -/
def runActions : Nat → Run → Run
  | 0, run => run.exit 2
  | fuel + 1, run =>
    run.actions.foldl (fun run action =>
      if run.isActive then
        let after := runSource fuel run ⟨action, 1, 0, none⟩
        if after.isActive then after.done run.status else after
      else run) { run with actions := [] }

/-- Runs a simple command. -/
def runSimple : Nat → Run → List (Text × Word) → List Word → List Redirection → Run
  | 0, run, _, _, _ => run.exit 2
  | fuel + 1, run, assignments, words, redirections =>
    let (run, fields) := expandFields fuel { run with outputStatus := 0 } words
    if !run.isActive then run
    else match fields with
    | [] =>
      let outer := run
      redirected fuel run redirections fun run =>
        let (run, values) := expandAssignments fuel run assignments
        let run := trace (outer.channel 2) run values []
        let run := values.foldl (fun run (name, value) =>
          if run.isActive then run.assign name value else run) run
        if run.isActive then run.done run.outputStatus else run
    | name :: arguments =>
      if name = text "exec" && arguments.isEmpty then
        let (after, possible) := redirections.foldl (redirect fuel) (run, true)
        if possible then after.done 0 else if after.isActive then after.exit 2 else after
      else
        let special := Builtin.isSpecial name
        let (after, possible) := redirections.foldl (redirect fuel) (run, true)
        let after :=
          if !possible then
            if !after.isActive then after else if special then after.exit 2 else after.done 2
          else
            let (after, values) := expandAssignments fuel after assignments
            let after := trace (run.channel 2) after values fields
            if !after.isActive then after
            else if special then
              let after := values.foldl (fun run (name, value) =>
                if run.isActive then run.assign name value else run) after
              if after.isActive then runNamed fuel after true name arguments else after
            else
              let before := after
              let after := after.withVariables values
              if after.isActive then
                (runNamed fuel after true name arguments).restoring before (values.map (·.1))
              else after
        { after with
          channels := run.channels
          input := if redirections.any isInput then run.input else after.input }
where
  /-- Shows a command before it is run, if that is asked for. -/
  trace (channel : Channel) (run : Run) (values : List (Text × Text)) (fields : List Text) : Run :=
    if run.options.trace then
      run.write channel (text "+ " ++ Text.join (text " ")
        (values.map (fun (name, value) => name ++ text "=" ++ value) ++ fields) ++ text "\n")
    else run

/-- Runs the command of a name; the flag says whether it may be a function. -/
def runNamed : Nat → Run → Bool → Text → List Text → Run
  | 0, run, _, _, _ => run.exit 2
  | fuel + 1, run, mayBeFunction, name, arguments =>
    let function := if mayBeFunction && !Builtin.isSpecial name then
        run.functions.find? fun entry => entry.1 == name
      else none
    match function with
    | some (_, body) => runFunction fuel run body arguments
    | none =>
      match name.toString with
      | "eval" =>
        let after := run.asBuiltin name fun run =>
          runSource fuel run ⟨Text.join (text " ") arguments, 1, 0, none⟩
        if arguments.all (·.isEmpty) && after.isActive then after.done 0 else after
      | "." => run.asBuiltin name fun run => runFile fuel run arguments
      | "exec" =>
        let arguments := if arguments.head? = some (text "--") then arguments.drop 1 else arguments
        match arguments with
        | [] => run.done 0
        | program :: rest =>
          let after := run.asBuiltin name fun run => runProgram fuel run true program rest
          if after.isActive then { after.exit after.status with traps := [] } else after
      | "command" => runDirectly fuel run arguments
      | "type" =>
        arguments.foldl (fun run name =>
          match run.describe? name with
          | some (what, _) => run.print (name ++ text " " ++ what ++ text "\n")
          | none => (run.print (name ++ text ": not found\n")).done 127) (run.done 0)
      | _ => match Builtin.run? { run with builtin := name } name arguments with
        | some after =>
          let after := { after with builtin := run.builtin }
          if Builtin.isSpecial name then after else after.withoutRefusal
        | none => runProgram fuel run false name arguments

/-- Calls a function. -/
def runFunction : Nat → Run → Command → List Text → Run
  | 0, run, _, _ => run.exit 2
  | fuel + 1, run, body, arguments =>
    if callLimit ≤ run.calls then
      run.refuse (text "Maximum function recursion depth (1000) reached")
    else
      let after := runCommand fuel
        { run with
          arguments := arguments, calls := run.calls + 1, locals := [], loops := 0,
          optionPlace := {} } body
      let after := after.locals.foldl (fun run v =>
        if v.value.isNone && !v.exported then
          { run with bindings := run.bindings.filter fun w => w.name != v.name }
        else run.alter v.name fun _ => v) after
      { after with
        arguments := run.arguments, calls := run.calls, locals := run.locals, loops := run.loops,
        optionPlace := run.optionPlace,
        leaving := if after.leaving = some .function then none else after.leaving }

/-- The builtin `command`. -/
def runDirectly : Nat → Run → List Text → Run
  | 0, run, _ => run.exit 2
  | fuel + 1, run, arguments =>
    match arguments with
    | [] => run.done 0
    | first :: rest =>
      if first = text "-v" ∨ first = text "-V" then
        match rest.head?.bind run.describe?, rest.head? with
        | some (what, path), some name =>
          (run.print ((if first = text "-v" then path else name ++ text " " ++ what)
            ++ text "\n")).done 0
        | _, some name =>
          (if first = text "-v" then run else run.print (name ++ text ": not found\n")).done 127
        | _, none => run.done 0
      else if first = text "-p" ∨ first = text "--" then runDirectly fuel run rest
      else (runNamed fuel run false first rest).withoutRefusal

/-- The builtin `.`: runs the script in a file in this shell. -/
def runFile : Nat → Run → List Text → Run
  | 0, run, _ => run.exit 2
  | fuel + 1, run, arguments =>
    match arguments.head? with
    | none => run.done 0
    | some name =>
      let path := if name.contains Path.Posix.slash then name
        else (run.searchPath.map fun directory => directory ++ text "/" ++ name).find?
          (fun path => run.ask path fun node => !node.isDirectory) |>.getD name
      if !path.contains Path.Posix.slash then run.refuse (name ++ text ": not found")
      else match run.open? path with
        | .error error => run.refuse (openingFailure false name error)
        | .ok script =>
          let after := runSource fuel
            { run.done 0 with calls := run.calls + 1, builtin := path } ⟨script, 1, 0, none⟩
          { after with
            calls := run.calls
            leaving := if after.leaving = some .function then none else after.leaving }

/-- Runs the program of a name in a process of its own and waits for it; the flag says whether the
shell itself is to end with it. -/
def runProgram : Nat → Run → Bool → Text → List Text → Run
  | 0, run, _, _, _ => run.exit 2
  | fuel + 1, run, replaces, name, arguments =>
    let missing (run : Run) : Run := (run.complain (name ++ text ": not found")).done 127
    let denied (run : Run) : Run :=
      (run.complain (name ++ text ": Permission denied")).done
        (if name.contains Path.Posix.slash || replaces then 126 else 127)
    match run.locate name with
    | .missing => missing run
    | .denied => denied run
    | .found path =>
      let child := match launch fuel 5 { run.spawn with name := name } path arguments with
        | .ok child => some child
        | .error .badExecutable =>
          some (runShell fuel { run.spawn with name := run.name } (path :: arguments))
        | .error _ => none
      match child with
      | none => missing run
      | some child =>
        let run := run.withEffects child
        match child.leaving with
        | some (.shell .overdue) => run.leave (.shell .overdue)
        | some (.shell (.signal number)) =>
          let run := match Builtin.signalReport? number with
            | some report => run.report report
            | none => run
          run.done (128 + number)
        | some (.shell (.exit status)) => run.done status
        | _ => run.done child.status

/-- Starts the program at a path in a process that was made for it and has the name by which the
program was called; scripts may name scripts as their interpreters up to a bound. -/
def launch : Nat → Nat → Run → Text → List Text → Except SystemError Run
  | 0, _, _, _, _ => .error .badExecutable
  | _ + 1, 0, _, _, _ => .error .badExecutable
  | fuel + 1, depth + 1, run, path, arguments =>
    match FileSystem.walk run.files.root [] (run.path path).names with
    | .error error => .error error
    | .ok (.directory _, _) => .error .permissionDenied
    | .ok (.program name, _) =>
      if name = text "sh" ∨ name = text "dash" then .ok (runShell fuel run arguments)
      else if name = text "env" then .ok (runWith fuel run arguments)
      else .ok ((Tool.run? run name arguments).getD (run.done 127))
    | .ok (.file content executable, _) =>
      if !executable then .error .permissionDenied
      else match interpreterLine? content with
        | none => .error .badExecutable
        | some (interpreter, argument) =>
          launch fuel depth { run with name := interpreter } interpreter
            (argument.toList ++ path :: arguments)

/-- The program `env`: runs a program with other variables, or prints them. -/
def runWith : Nat → Run → List Text → Run
  | 0, run, _ => run.exit 2
  | fuel + 1, run, arguments =>
    match arguments with
    | [] =>
      (run.bindings.foldl (fun run v =>
        run.print (v.name ++ text "=" ++ v.value.getD [] ++ text "\n")) run).done 0
    | first :: rest =>
      if first = text "-i" ∨ first = text "-" then runWith fuel { run with bindings := [] } rest
      else if first = text "--" then runWith fuel run rest
      else if first = text "-u" then
        runWith fuel { run with
          bindings := run.bindings.filter fun v => some v.name != rest.head? } (rest.drop 1)
      else if first.contains (.char '=') then
        let (name, value) := Builtin.splitAssignment first
        runWith fuel (run.alter name fun v =>
          { v with value := value, exported := true }) rest
      else match run.locate first with
        | .found path =>
          match launch fuel 5 { run with name := first } path rest with
          | .ok run => run
          | .error error =>
            Tool.fail run (Text.quoted first ++ text ": " ++ error.description) 126
        | .denied =>
          Tool.fail run (Text.quoted first ++ text ": Permission denied") 126
        | .missing =>
          Tool.fail run (Text.quoted first ++ text ": No such file or directory") 127

/-- Runs what is left of a script in the present shell. -/
def runSource : Nat → Run → Source → Run
  | 0, run, _ => run.exit 2
  | fuel + 1, run, source =>
    match source.nextLine with
    | .error ⟨line, fault⟩ =>
      { run with line := line }.refuse (text "Syntax error: " ++ fault.message)
    | .ok none => run
    | .ok (some (commands, rest)) =>
      let run := runList fuel run commands
      if run.isActive then runSource fuel run rest else run

/-- Ends a shell: what was asked for at its end is run now. -/
def finish : Nat → Run → Run
  | 0, run => run.exit 2
  | fuel + 1, run =>
    let status? := match run.leaving with
      | none => some run.status
      | some (.shell (.exit status)) => some status
      | some (.shell _) => none
      | some _ => some run.status
    match status?, run.traps.find? fun trap => trap.1 == text "EXIT" with
    | none, _ => run
    | some status, none => run.exit status
    | some status, some (name, action) =>
      let after := runSource fuel
        { run with leaving := none, status := status, builtin := []
                   traps := run.traps.filter fun trap => trap.1 != name } ⟨action, 1, 0, none⟩
      if after.isActive then after.exit status else after

/-- Runs a shell with arguments: a script given in place, the script in a file, or the input. -/
def runShell : Nat → Run → List Text → Run
  | 0, run, _ => run.exit 2
  | fuel + 1, run, arguments =>
    let run := { run.asShell with line := 0 }
    match shellOptions (arguments.length + 1) {} false arguments with
    | .error complaint => run.refuse complaint
    | .ok (options, inPlace, words) =>
      let run := { run with options := options }
      let start (run : Run) (script : Text) : Run :=
        finish fuel (runSource fuel { run with line := 1 } ⟨script, 1, 0, none⟩)
      if inPlace then
        match words with
        | [] => run.refuse (text "-c requires an argument")
        | [script] => start { run with arguments := [] } script
        | script :: name :: rest => start { run with name := name, arguments := rest } script
      else
        let readInput (run : Run) : Run :=
          let (script, run) := run.takeInput
          start { run with
            options := { options with fromInput := true }, arguments := words } script
        match words with
        | [] => readInput run
        | file :: rest =>
          if options.fromInput then readInput run
          else match run.open? file with
            | .ok script => start { run with name := file, arguments := rest } script
            | .error error => run.refuse (openingFailure false file error)

end

/-- The depth of nested calls that a script may reach. -/
def depthLimit : Nat := 100000

/-- Starts the program at a path and lets it and all that it leaves running come to an end. -/
def execute (run : Run) (path : Text) (arguments : List Text) :
    Except SystemError (Run × Ending) := do
  let run ← launch depthLimit 5 run path arguments
  match run.leaving with
  | some (.shell (.exit status)) => return (run, settled run status)
  | some (.shell ending) => return (run, ending)
  | _ => return (run, settled run run.status)
where
  /-- How a program ends that left with a status; what it has left running may be waited for in
  vain. -/
  settled (run : Run) (status : Nat) : Ending :=
    if run.limit.any (· ≤ run.outputsHeldUntil) then .overdue else .exit status

end Shell

end DiagnosticRelay
