import DiagnosticRelay.Shell.Syntax

/-!
# Scripts while they are read

A script is read from its start to its end without looking back.  What is left of it,
the line that has been reached and a token that was looked at but not yet used make up
the state of reading, and a fault is noticed at the line that has been reached.

A line that ends in a backslash goes on in the next one.  The body of a here-document
stands on the lines after the one that asks for it; it is cut out at once, and its lines
are counted when the end of the asking line is passed.
-/

namespace DiagnosticRelay

namespace Shell

/-- A token of a script. -/
inductive Token where
  | finish
  | operator (t : Text)
  | redirect (number : Option Nat) (operator : Text)
  | word (w : Word)

namespace Token

/-- Whether a token is the given operator. -/
def isOperator (token : Token) (t : Text) : Bool :=
  match token with
  | .operator op => op == t
  | _ => false

/-- Whether a token ends a line. -/
def isNewline (token : Token) : Bool := token.isOperator (text "\n")

/-- The keyword that a token is. -/
def keyword? : Token → Option Text
  | .word w => (bareText? w).filter keywords.contains
  | _ => none

/-- Whether a token is the given keyword. -/
def isKeyword (token : Token) (name : String) : Bool := token.keyword? == some (text name)

/-- A token as it is named in messages. -/
def describe (token : Token) : Text :=
  match token with
  | .finish => text "end of file"
  | .operator op => if op = text "\n" then text "newline" else text "\"" ++ op ++ text "\""
  | .redirect .. => text "redirection"
  | .word _ => match token.keyword? with
    | some name => text "\"" ++ name ++ text "\""
    | none => text "word"

/-- A token as it is named in messages where no keyword is looked for. -/
def describePlain (token : Token) : Text :=
  match token with
  | .word _ => text "word"
  | token => token.describe

/-- Whether a token ends a list of commands inside another command. -/
def endsList (token : Token) : Bool :=
  match token with
  | .finish => true
  | .operator op => op == text ")" || op == text ";;"
  | .redirect .. => false
  | .word _ => token.keyword?.any fun name =>
    [text "do", text "done", text "elif", text "else", text "esac", text "fi", text "then",
      text "\x7d"].contains name

end Token

/-- What is left of a script. -/
structure Source where
  rest : Text
  line : Nat := 1
  documentLines : Nat := 0
  held : Option Token := none

/-- A reader of a part of a script. -/
abbrev Reading := StateT Source (Except SyntaxError)

namespace Source

/-- The source after so many code points. -/
def advance : Nat → Source → Source
  | 0, source => source
  | count + 1, source =>
    match source.rest with
    | [] => source
    | c :: rest =>
      if c = .char '\n' then
        advance count
          { source with rest := rest, line := source.line + 1 + source.documentLines,
                        documentLines := 0 }
      else advance count { source with rest := rest }

/-- The source after the line ends that a backslash takes away. -/
def joinLines (source : Source) : Source :=
  let rec drop (count : Nat) : Text → Nat
    | .char '\\' :: .char '\n' :: rest => drop (count + 2) rest
    | _ => count
  source.advance (drop 0 source.rest)

/-- The lines up to the one that is the given delimiter, whether their leading tabs are dropped, and
how many lines were used up. -/
def documentBody (delimiter : Text) (dropTabs : Bool) : List Text → Text × Nat
  | [] => ([], 0)
  | line :: lines =>
    let line := if dropTabs then line.dropWhile (· == .char '\t') else line
    if line = delimiter then ([], 1)
    else
      let (body, used) := documentBody delimiter dropTabs lines
      (line ++ (if lines.isEmpty then [] else text "\n") ++ body, used + 1)

/-- Cuts the body of a here-document out of the lines after the present one. -/
def cutDocument (delimiter : Text) (dropTabs : Bool) (source : Source) : Text × Source :=
  match Text.cutAt? (.char '\n') source.rest with
  | none => ([], source)
  | some (line, after) =>
    let lines := Text.splitOn (.char '\n') after
    let (body, used) := documentBody delimiter dropTabs lines
    let left := Text.join (text "\n") (lines.drop used)
    (body, { source with
      rest := line ++ text "\n" ++ left
      documentLines := source.documentLines + used })

end Source

namespace Reading

/-- Stops with a fault at the line that has been reached. -/
def fail {α : Type} (fault : SyntaxFault) : Reading α := do
  throw ⟨(← get).line, fault⟩

/-- Stops because of a token. -/
def unexpected {α : Type} (found : Token) (expected : Option Text) : Reading α :=
  fail (.unexpected found.describe expected)

/-- Passes over so many code points. -/
def skip (count : Nat) : Reading Unit := modify (Source.advance count)

/-- Takes the code points at the head that satisfy a condition. -/
def takeWhile (condition : CodePoint → Bool) : Reading Text := do
  let run := (← get).rest.takeWhile condition
  skip run.length
  return run

/-- What is left, after line ends that a backslash takes away. -/
def ahead : Reading Text := do
  modify Source.joinLines
  return (← get).rest

end Reading

end Shell

end DiagnosticRelay
