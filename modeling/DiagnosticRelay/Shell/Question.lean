import DiagnosticRelay.Shell.Arithmetic
import DiagnosticRelay.Shell.Run

/-!
# Questions in shell scripts

`test` answers a question about texts, numbers and files.  Its arguments are a small
language of their own, in which a word that looks like an operator is an operand where an
operand has to stand: a unary operator with nothing behind it, or with a binary operator
behind it, is just a text.
-/

namespace DiagnosticRelay

namespace Shell

namespace Question

/-- The kinds of words in a question. -/
inductive Kind where
  | finish
  | operand
  | unary
  | binary
  | conjunction
  | disjunction
  | negation
  | opening
  | closing
  deriving DecidableEq

/-- The unary operators. -/
def unaryOperators : List Text :=
  [text "-r", text "-w", text "-x", text "-e", text "-f", text "-d", text "-c", text "-b",
    text "-p", text "-u", text "-g", text "-k", text "-s", text "-t", text "-z", text "-n",
    text "-h", text "-O", text "-G", text "-L", text "-S"]

/-- The binary operators. -/
def binaryOperators : List Text :=
  [text "=", text "!=", text "<", text ">", text "-eq", text "-ne", text "-ge", text "-gt",
    text "-le", text "-lt", text "-nt", text "-ot", text "-ef"]

/-- The kind of operator that a word is, if it is one. -/
def kind? (word : Text) : Option Kind :=
  if unaryOperators.contains word then some .unary
  else if binaryOperators.contains word then some .binary
  else if word = text "-a" then some .conjunction
  else if word = text "-o" then some .disjunction
  else if word = text "!" then some .negation
  else if word = text "(" then some .opening
  else if word = text ")" then some .closing
  else none

/-- The kind of the word at a place. -/
def kindAt (words : List Text) (place : Nat) : Kind :=
  match words[place]? with
  | none => .finish
  | some word =>
    match kind? word with
    | some .unary =>
      match words[place + 1]?, words[place + 2]? with
      | none, _ => .operand
      | some _, none => .unary
      | some next, some _ => if kind? next == some .binary then .operand else .unary
    | some .opening => if (words[place + 1]?).isNone then .operand else .opening
    | some kind => kind
    | none => .operand

/-- An integer in decimal with white space around it. -/
def integer (t : Text) : Except Text Int :=
  let rest := t.dropWhile isSpace
  let (negative, digits) := match rest with
    | .char '-' :: more => (true, more)
    | .char '+' :: more => (false, more)
    | _ => (false, rest)
  let found := Arithmetic.takeDigits 10 digits
  let n : Int := Arithmetic.ofDigits 10 found
  let z := if negative then -n else n
  if found.isEmpty || !(digits.drop found.length).all isSpace || Arithmetic.clamp z != z then
    .error (text "Illegal number: " ++ t)
  else .ok z

/-- The answer of a unary operator. -/
def unary (run : Run) (operator operand : Text) : Bool :=
  match operator.toString with
  | "-z" => operand.isEmpty
  | "-n" => !operand.isEmpty
  | "-e" => run.ask operand fun _ => true
  | "-r" => run.ask operand fun _ => true
  | "-w" => run.ask operand fun _ => true
  | "-x" => run.ask operand fun node => node.isDirectory || node.isProgram
  | "-f" => run.ask operand fun node => !node.isDirectory
  | "-d" => run.ask operand Node.isDirectory
  | "-s" => run.ask operand fun node => match node with
    | .file content _ => !content.isEmpty
    | _ => true
  | _ => false

/-- The answer of a binary operator. -/
def binary (run : Run) (operator first second : Text) : Except Text Bool :=
  let compared (relation : Int → Int → Bool) : Except Text Bool := do
    return relation (← integer first) (← integer second)
  match operator.toString with
  | "=" => .ok (first == second)
  | "!=" => .ok (first != second)
  | "<" => .ok (Text.compare first second == .lt)
  | ">" => .ok (Text.compare first second == .gt)
  | "-eq" => compared (· == ·)
  | "-ne" => compared (· != ·)
  | "-ge" => compared (· ≥ ·)
  | "-gt" => compared (· > ·)
  | "-le" => compared (· ≤ ·)
  | "-lt" => compared (· < ·)
  | "-ef" => .ok (Run.placeOf (run.path first) == Run.placeOf (run.path second)
      && run.ask first fun _ => true)
  | _ => .ok false

mutual

/-- A disjunction from a place on: its answer and the place of its last word. -/
def disjunction (run : Run) (words : List Text) : Nat → Kind → Nat → Except Text (Bool × Nat)
  | 0, _, place => .ok (false, place)
  | fuel + 1, kind, place => do
    let (first, place) ← conjunction run words fuel kind place
    if kindAt words (place + 1) = .disjunction then
      let (second, place) ← disjunction run words fuel (kindAt words (place + 2)) (place + 2)
      return (first || second, place)
    else return (first, place)

/-- A conjunction from a place on. -/
def conjunction (run : Run) (words : List Text) : Nat → Kind → Nat → Except Text (Bool × Nat)
  | 0, _, place => .ok (false, place)
  | fuel + 1, kind, place => do
    let (first, place) ← negation run words fuel kind place
    if kindAt words (place + 1) = .conjunction then
      let (second, place) ← conjunction run words fuel (kindAt words (place + 2)) (place + 2)
      return (first && second, place)
    else return (first, place)

/-- A question that may be negated. -/
def negation (run : Run) (words : List Text) : Nat → Kind → Nat → Except Text (Bool × Nat)
  | 0, _, place => .ok (false, place)
  | fuel + 1, kind, place => do
    if kind = .negation then
      let kind := kindAt words (place + 1)
      let place := if kind = .finish then place else place + 1
      let (answer, place) ← negation run words fuel kind place
      return (!answer, place)
    else single run words fuel kind place

/-- A question without connectives at its top. -/
def single (run : Run) (words : List Text) : Nat → Kind → Nat → Except Text (Bool × Nat)
  | 0, _, place => .ok (false, place)
  | fuel + 1, kind, place => do
    let word := (words[place]?).getD []
    match kind with
    | .finish => return (false, place)
    | .opening =>
      let kind := kindAt words (place + 1)
      if kind = .closing then return (false, place + 1)
      let (answer, place) ← disjunction run words fuel kind (place + 1)
      if kindAt words (place + 1) != .closing then throw (text "closing paren expected")
      return (answer, place + 1)
    | .unary =>
      match words[place + 1]? with
      | none => throw (word ++ text ": argument expected")
      | some operand => return (unary run word operand, place + 1)
    | _ =>
      if kindAt words (place + 1) = .binary then
        let operator := (words[place + 1]?).getD []
        match words[place + 2]? with
        | none => throw (operator ++ text ": argument expected")
        | some second => return (← binary run operator word second, place + 2)
      else return (!word.isEmpty, place)

end

/-- The answer to a question, or what is wrong with it. -/
def answer (run : Run) (words : List Text) : Except Text Bool := do
  if words.isEmpty then return false
  let inParentheses := words.head? = some (text "(") ∧ words.getLast? = some (text ")")
  let comparison := words.length = 3 ∧ (words[1]?.bind kind?) = some .binary
  let words := if (words.length = 3 ∨ words.length = 4) ∧ inParentheses ∧ ¬ comparison then
      (words.drop 1).dropLast
    else words
  let kind := if comparison then .operand else kindAt words 0
  let (answer, place) ← disjunction run words (4 * words.length + 8) kind 0
  match words[place]?, words[place + 1]? with
  | some word, some _ => throw (word ++ text ": unexpected operator")
  | _, _ => return answer

end Question

end Shell

end DiagnosticRelay
