import DiagnosticRelay.Shell.Builtin

/-!
# Programs of the host

The small programs that scripts lean on: they copy, count, cut and change text.  Each takes
the run that starts it and its arguments; it uses up the input, writes to the outputs and
leaves its status.
-/

namespace DiagnosticRelay

namespace Shell

namespace Tool

/-- Complains in the name by which the program was called. -/
def fail (run : Run) (complaint : Text) (status : Nat) : Run :=
  (run.report (run.name ++ text ": " ++ complaint)).done status

/-- Complains and points to the help of the program. -/
def failWithHint (run : Run) (complaint : Text) : Run :=
  fail run (complaint ++ text "\nTry '" ++ run.name ++ text " --help' for more information.") 1

/-- Whether an argument is a group of option letters. -/
def isOption (argument : Text) : Bool := argument.head? == some (.char '-') && 1 < argument.length

/-- The text that an argument leads to; a hyphen stands for the input. -/
def source (run : Run) (argument : Text) : Except SystemError Text × Run :=
  if argument = text "-" then
    let (t, run) := run.takeInput
    (.ok t, run)
  else (run.open? argument, run)

/-- Applies a function to the text of each argument, or to the input if there are none, and prints
what comes out. -/
def filter (run : Run) (refusal : Text → Text) (f : Text → Text → Text)
    (arguments : List Text) : Run :=
  let arguments := if arguments.isEmpty then [text "-"] else arguments
  arguments.foldl (fun run argument =>
    match source run argument with
    | (.ok t, run) => run.print (f argument t)
    | (.error error, run) =>
      fail run (refusal argument ++ text ": " ++ error.description) 1) (run.done 0)

/-- The lines of a text, each with the line feed that ends it. -/
def lines (t : Text) : List Text :=
  let pieces := Text.splitOn (.char '\n') t
  (pieces.dropLast.map (· ++ text "\n"))
    ++ (match pieces.getLast? with
      | some [] | none => []
      | some rest => [rest])

/-- A line without its line feed. -/
def bare (line : Text) : Text :=
  if line.getLast? = some (.char '\n') then line.dropLast else line

/-! ## Parts of texts -/

/-- What to keep of a text: so many lines or octets from its start, from its end, or from a place
on. -/
structure Extent where
  count : Nat := 10
  octets : Bool := false
  fromPlace : Bool := false

/-- The extent that some arguments ask for, and the arguments behind it. -/
def readExtent : Nat → Extent → List Text → Extent × List Text
  | 0, extent, arguments => (extent, arguments)
  | fuel + 1, extent, arguments =>
    let counted (octets : Bool) (t : Text) (rest : List Text) : Extent × List Text :=
      let (fromPlace, digits) := match t with
        | .char '+' :: digits => (true, digits)
        | .char '-' :: digits => (false, digits)
        | digits => (false, digits)
      readExtent fuel ⟨(number? digits).getD 0, octets, fromPlace⟩ rest
    match arguments with
    | [] => (extent, [])
    | first :: rest =>
      match first with
      | [.char '-', .char 'n'] => counted false (rest.head?.getD []) (rest.drop 1)
      | [.char '-', .char 'c'] => counted true (rest.head?.getD []) (rest.drop 1)
      | .char '-' :: .char 'n' :: digits => counted false digits rest
      | .char '-' :: .char 'c' :: digits => counted true digits rest
      | .char '-' :: c :: _ =>
        if c.asciiDigit?.isSome then counted false (first.drop 1) rest else (extent, arguments)
      | _ => (extent, arguments)

/-- The start of a text. -/
def head (extent : Extent) (t : Text) : Text :=
  if extent.octets then t.take extent.count else ((lines t).take extent.count).flatten

/-- The end of a text. -/
def tail (extent : Extent) (t : Text) : Text :=
  let keep {α : Type} (items : List α) : List α :=
    if extent.fromPlace then items.drop (extent.count - 1)
    else items.drop (items.length - extent.count)
  if extent.octets then keep t else (keep (lines t)).flatten

/-! ## Counting and numbering -/

/-- The number of words of a text. -/
def wordCount (t : Text) : Nat :=
  (t.foldl (fun (count, inWord) c =>
    if isSpace c then (count, false) else (if inWord then count else count + 1, true))
    (0, false)).1

/-- The program `wc`. -/
def count (run : Run) (arguments : List Text) : Run :=
  let options := arguments.filter isOption
  let wanted := options.flatMap (·.drop 1)
  let has (c : Char) : Bool := wanted.isEmpty || wanted.contains (.char c)
  let files := arguments.filter fun argument => !options.contains argument
  let counts (t : Text) : List Nat :=
    (if has 'l' then [t.count (.char '\n')] else [])
      ++ (if has 'w' then [wordCount t] else [])
      ++ (if wanted.isEmpty || wanted.contains (.char 'c') || wanted.contains (.char 'm') then
        [t.length] else [])
  filter run id (fun name t =>
    let found := counts t
    let width := if found.length = 1 then 1 else if files.isEmpty then 7
      else (Decimal.ofNat t.length).length
    Text.join (text " ") (found.map fun n =>
      List.replicate (width - (Decimal.ofNat n).length) (CodePoint.char ' ') ++ Decimal.ofNat n)
      ++ (if files.isEmpty then [] else text " " ++ name) ++ text "\n") files

/-- The program `seq`. -/
def sequence (run : Run) (arguments : List Text) : Run :=
  match arguments.mapM fun argument => (Question.integer argument).toOption with
  | none =>
    let first := arguments.head?.getD []
    fail run (text "invalid floating point argument: " ++ Text.quoted first) 1
  | some numbers =>
    let (first, step, last) := match numbers with
      | [last] => (1, 1, last)
      | [first, last] => (first, 1, last)
      | [first, step, last] => (first, step, last)
      | _ => (1, 1, 0)
    let length := if step = 0 then 0 else ((last - first) / step + 1).toNat
    (run.print ((List.range length).flatMap fun (index : Nat) =>
      Decimal.ofInt (first + step * index) ++ text "\n")).done 0

/-! ## Changing octets -/

/-- The octets that a set of `tr` stands for. -/
def readSet : Nat → Text → Text
  | 0, _ => []
  | fuel + 1, t =>
    match t with
    | [] => []
    | .char '[' :: .char ':' :: rest =>
      let name := rest.takeWhile CodePoint.isAsciiLetter
      match rest.drop name.length with
      | .char ':' :: .char ']' :: after =>
        (Pattern.classRanges name).flatMap (fun range =>
          (List.range (range.2 + 1 - range.1)).map fun n => CodePoint.ofValue (range.1 + n))
          ++ readSet fuel after
      | _ => .char '[' :: readSet fuel (.char ':' :: rest)
    | .char '\\' :: rest =>
      let (c, used) := Printing.readEscape rest
      c :: readSet fuel (rest.drop used)
    | low :: .char '-' :: high :: rest =>
      (List.range (high.value + 1 - low.value)).map (fun n => CodePoint.ofValue (low.value + n))
        ++ readSet fuel rest
    | c :: rest => c :: readSet fuel rest

/-- A text in which runs of the same octet of a set stand for one. -/
def squeeze (set : CodePoint → Bool) : Text → Text
  | [] => []
  | [c] => [c]
  | c :: d :: rest =>
    if c = d && set c then squeeze set (d :: rest) else c :: squeeze set (d :: rest)

/-- The program `tr`. -/
def replaceOctets (run : Run) (arguments : List Text) : Run :=
  let options := arguments.takeWhile isOption
  let flags := options.flatMap (·.drop 1)
  let sets := (arguments.drop options.length).map fun t => readSet (t.length + 1) t
  let (t, run) := run.takeInput
  let complement := flags.contains (.char 'c') || flags.contains (.char 'C')
  let first := sets.head?.getD []
  let isIn (c : CodePoint) : Bool := complement != first.contains c
  match sets with
  | [] => fail run (text "missing operand") 1
  | [_] =>
    if flags.contains (.char 'd') then (run.print (t.filter fun c => !isIn c)).done 0
    else if flags.contains (.char 's') then (run.print (squeeze isIn t)).done 0
    else fail run (text "missing operand after " ++ Text.quoted (arguments.getLast?.getD [])) 1
  | _ :: second :: _ =>
    let last := second.getLast?
    let changed (c : CodePoint) : CodePoint :=
      if complement then (if isIn c then last.getD c else c)
      else match first.idxOf? c with
        | some index => ((second[index]?).or last).getD c
        | none => c
    if flags.contains (.char 'd') then
      (run.print (squeeze second.contains (t.filter fun c => !isIn c))).done 0
    else
      let t := t.map changed
      (run.print (if flags.contains (.char 's') then squeeze second.contains t else t)).done 0

/-! ## Ordering lines -/

/-- The leading integer of a line, as `sort` sees it. -/
def leadingNumber (line : Text) : Int := (Arithmetic.takeInteger line).1

/-- The lines of a text without those that repeat the line before. -/
def withoutRepeats : List Text → List Text
  | [] => []
  | [line] => [line]
  | line :: next :: rest =>
    if line = next then withoutRepeats (next :: rest) else line :: withoutRepeats (next :: rest)

/-- The program `sort`. -/
def sort (run : Run) (arguments : List Text) : Run :=
  let options := arguments.filter isOption
  let flags := options.flatMap (·.drop 1)
  filter run (text "cannot read: " ++ ·) (fun _ t =>
    let found := (lines t).map bare
    let le (a b : Text) : Bool :=
      if flags.contains (.char 'n') then
        leadingNumber a < leadingNumber b || (leadingNumber a == leadingNumber b && Text.le a b)
      else Text.le a b
    let ordered := found.mergeSort le
    let ordered := if flags.contains (.char 'u') then withoutRepeats ordered else ordered
    let ordered := if flags.contains (.char 'r') then ordered.reverse else ordered
    ordered.flatMap (· ++ text "\n"))
    (arguments.filter fun argument => !options.contains argument)

/-! ## Paths and files -/

/-- The last name of a path, without an ending. -/
def lastName (path ending : Text) : Text :=
  let trimmed := (path.reverse.dropWhile (· == Path.Posix.slash)).reverse
  let name := if trimmed.isEmpty && !path.isEmpty then [Path.Posix.slash]
    else match Text.cutAtLast? Path.Posix.slash trimmed with
      | some (_, name) => name
      | none => trimmed
  if Text.endsWith name ending && name != ending then name.take (name.length - ending.length)
  else name

/-- A path without its last name. -/
def directoryName (path : Text) : Text :=
  let drop (t : Text) : Text := (t.reverse.dropWhile (· == Path.Posix.slash)).reverse
  let trimmed := drop path
  match Text.cutAtLast? Path.Posix.slash trimmed with
  | some (before, _) =>
    let before := drop before
    if before.isEmpty then [Path.Posix.slash] else before
  | none => if trimmed.isEmpty && !path.isEmpty then [Path.Posix.slash] else Path.here

/-- The program `tee`. -/
def tee (run : Run) (arguments : List Text) : Run :=
  let append := arguments.contains (text "-a")
  let (t, run) := run.takeInput
  (arguments.filter (· != text "-a")).foldl (fun run path =>
    match run.create? path append with
    | .ok (channel, run) => run.write channel t
    | .error error => fail run (path ++ text ": " ++ error.description) 1)
    ((run.print t).done 0)

/-- The program `touch`. -/
def touch (run : Run) (arguments : List Text) : Run :=
  arguments.foldl (fun run path =>
    if run.ask path fun _ => true then run
    else match run.create? path true with
      | .ok (_, run) => run
      | .error error =>
        fail run (text "cannot touch " ++ Text.quoted path ++ text ": " ++ error.description) 1)
    (run.done 0)

/-- The program `mkdir`. -/
def makeDirectories (run : Run) (arguments : List Text) : Run :=
  let parents := arguments.contains (text "-p")
  (arguments.filter (· != text "-p")).foldl (fun run path =>
    let names := Run.placeOf (run.path path)
    let refuse (why : String) : Run :=
      fail run (text "cannot create directory '" ++ path ++ text "': " ++ text why) 1
    let above := FileSystem.walk run.files.root [] names.dropLast
    if run.ask path fun _ => true then
      if parents && run.ask path Node.isDirectory then run else refuse "File exists"
    else match above with
      | .ok (.directory _, _) => run.withRoot (run.files.root.put names (.directory []))
      | .ok _ => refuse "Not a directory"
      | .error _ =>
        if parents then run.withRoot (run.files.root.put names (.directory []))
        else refuse "No such file or directory") (run.done 0)

/-- A tree without the node at the end of a list of names. -/
def without (tree : Node) (names : List Text) : Node :=
  match names, tree with
  | [name], .directory entries => .directory (entries.filter fun entry => entry.1 != name)
  | name :: rest, .directory entries =>
    .directory (entries.map fun entry =>
      if entry.1 = name then (entry.1, without entry.2 rest) else entry)
  | _, tree => tree

/-- The program `rm`. -/
def remove (run : Run) (arguments : List Text) : Run :=
  let options := arguments.filter fun argument => argument.head? == some (.char '-')
  let flags := options.flatMap (·.drop 1)
  let forced := flags.contains (.char 'f')
  let deep := flags.contains (.char 'r') || flags.contains (.char 'R')
  (arguments.filter fun argument => !options.contains argument).foldl (fun run path =>
    let refuse (why : String) : Run :=
      fail run (text "cannot remove '" ++ path ++ text "': " ++ text why) 1
    if run.ask path Node.isDirectory && !deep then refuse "Is a directory"
    else if run.ask path fun _ => true then
      run.withRoot (without run.files.root (Run.placeOf (run.path path)))
    else if forced then run else refuse "No such file or directory") (run.done 0)

/-- The program `expr`, for one operator between two operands. -/
def expression (run : Run) (arguments : List Text) : Run :=
  let answer (t : Text) : Run :=
    (run.print (t ++ text "\n")).done (if t.isEmpty ∨ t = text "0" then 1 else 0)
  match arguments with
  | [a] => answer a
  | [a, operator, b] =>
    match (Question.integer a).toOption, (Question.integer b).toOption with
    | some m, some n =>
      let truth (b : Bool) : Run := answer (text (if b then "1" else "0"))
      match operator.toString with
      | "+" => answer (Decimal.ofInt (m + n))
      | "-" => answer (Decimal.ofInt (m - n))
      | "*" => answer (Decimal.ofInt (m * n))
      | "/" => if n = 0 then fail run (text "division by zero") 2
        else answer (Decimal.ofInt (Int.tdiv m n))
      | "%" => if n = 0 then fail run (text "division by zero") 2
        else answer (Decimal.ofInt (Int.tmod m n))
      | "=" => truth (m == n)
      | "!=" => truth (m != n)
      | "<" => truth (m < n)
      | "<=" => truth (m ≤ n)
      | ">" => truth (m > n)
      | ">=" => truth (m ≥ n)
      | _ => fail run (text "syntax error") 2
    | _, _ =>
      if operator = text "=" then answer (text (if a == b then "1" else "0"))
      else if operator = text "!=" then answer (text (if a != b then "1" else "0"))
      else if [text "+", text "-", text "*", text "/", text "%"].contains operator then
        fail run (text "non-integer argument") 2
      else fail run (text "syntax error") 2
  | _ => fail run (text "syntax error") 2

/-- The microseconds that an argument of `sleep` spells, perhaps with a unit. -/
def sleepTime? (argument : Text) : Option Nat := do
  let (t, unit) := match argument.getLast? with
    | some (.char 's') => (argument.dropLast, 1)
    | some (.char 'm') => (argument.dropLast, 60)
    | some (.char 'h') => (argument.dropLast, 3600)
    | some (.char 'd') => (argument.dropLast, 86400)
    | _ => (argument, 1)
  let (whole, fraction) := (Text.cutAt? (.char '.') t).getD (t, [])
  if whole.isEmpty && fraction.isEmpty then none
  let millionths := (fraction ++ List.replicate 6 (CodePoint.char '0')).take 6
  let digits ← (whole ++ millionths).mapM CodePoint.asciiDigit?
  some (unit * Arithmetic.ofDigits 10 digits)

/-- The program `sleep`. -/
def sleep (run : Run) (arguments : List Text) : Run :=
  match arguments with
  | [] => failWithHint run (text "missing operand")
  | _ => match arguments.mapM sleepTime? with
    | some times => run.sleep (times.foldl (· + ·) 0)
    | none =>
      let bad := (arguments.find? fun argument => (sleepTime? argument).isNone).getD []
      failWithHint run (text "invalid time interval '" ++ bad ++ text "'")

/-- The program `test`. -/
def question (run : Run) (arguments : List Text) : Run :=
  match Question.answer run arguments with
  | .ok answer => run.done (if answer then 0 else 1)
  | .error complaint => fail run complaint 2

/-- The names of the programs. -/
def names : List Text :=
  ["[", "basename", "cat", "dash", "dirname", "echo", "env", "expr", "false", "head", "mkdir",
    "printenv", "printf", "pwd", "rm", "seq", "sh", "sleep", "sort", "tail", "tee", "test",
    "touch", "tr", "true", "uniq", "wc"].map text

/-- Runs the program of a name, if it is one that runs no other programs. -/
def run? (run : Run) (name : Text) (arguments : List Text) : Option Run :=
  match name.toString with
  | "true" => some (run.done 0)
  | "false" => some (run.done 1)
  | "cat" => some (filter run id (fun _ t => t) (arguments.filter (· != text "-u")))
  | "echo" => some ((run.print (Printing.echoWithOptions true false arguments)).done 0)
  | "printf" => some (
      if arguments.isEmpty then failWithHint run (text "missing operand")
      else Builtin.printf run arguments)
  | "pwd" => some ((run.print (run.directoryText ++ text "\n")).done 0)
  | "test" => some (question run arguments)
  | "[" => some (
      if arguments.getLast? = some (text "]") then question run arguments.dropLast
      else fail run (text "missing ']'") 2)
  | "sleep" => some (sleep run arguments)
  | "head" =>
    let (extent, files) := readExtent (arguments.length + 1) {} arguments
    some (filter run (fun path => text "cannot open '" ++ path ++ text "' for reading")
      (fun _ t => head extent t) files)
  | "tail" =>
    let (extent, files) := readExtent (arguments.length + 1) {} arguments
    some (filter run (fun path => text "cannot open '" ++ path ++ text "' for reading")
      (fun _ t => tail extent t) files)
  | "wc" => some (count run arguments)
  | "tr" => some (replaceOctets run arguments)
  | "sort" => some (sort run arguments)
  | "uniq" => some (filter run id
      (fun _ t => (withoutRepeats ((lines t).map bare)).flatMap (· ++ text "\n")) arguments)
  | "seq" => some (sequence run arguments)
  | "basename" => some (match arguments with
      | path :: rest => (run.print (lastName path (rest.head?.getD []) ++ text "\n")).done 0
      | [] => failWithHint run (text "missing operand"))
  | "dirname" => some (
      if arguments.isEmpty then failWithHint run (text "missing operand")
      else (run.print (arguments.flatMap fun path => directoryName path ++ text "\n")).done 0)
  | "tee" => some (tee run arguments)
  | "touch" => some (touch run arguments)
  | "mkdir" => some (makeDirectories run arguments)
  | "rm" => some (remove run arguments)
  | "expr" => some (expression run arguments)
  | "printenv" => some (match arguments with
      | [name] => match ((run.lookUp? name).filter (·.exported)).bind (·.value) with
        | some value => (run.print (value ++ text "\n")).done 0
        | none => run.done 1
      | _ => ((run.bindings.filter (·.exported)).foldl (fun run v =>
          run.print (v.name ++ text "=" ++ v.value.getD [] ++ text "\n")) run).done 0)
  | _ => none

end Tool

end Shell

end DiagnosticRelay
