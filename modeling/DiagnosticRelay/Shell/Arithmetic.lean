import DiagnosticRelay.Number.Decimal
import DiagnosticRelay.Shell.Syntax
import DiagnosticRelay.Text.Casing

/-!
# Arithmetic in shell scripts

Expressions are those of integers of 64 bits that wrap around, with the operators of the
language C except the ones that count up and down.  Names stand for variables, and an
assignment is an expression.  What stands on the side of `&&`, `||` or `?` that does not matter
is read but not worked out.
-/

namespace DiagnosticRelay

namespace Shell

namespace Arithmetic

/-- What can be wrong with an expression. -/
inductive Failure where
  | expectingPrimary
  | expectingEnd
  | expectingParenthesis
  | expectingColon
  | divisionByZero
  | illegalNumber (value : Text)
  deriving DecidableEq

/-- A failure of an expression in words. -/
def Failure.message (expression : Text) : Failure → Text
  | .illegalNumber value => text "Illegal number: " ++ value
  | failure =>
    let what := match failure with
      | .expectingPrimary => "expecting primary"
      | .expectingEnd => "expecting EOF"
      | .expectingParenthesis => "expecting ')'"
      | .expectingColon => "expecting ':'"
      | _ => "division by zero"
    text "arithmetic expression: " ++ text what ++ text ": \"" ++ expression ++ text "\""

/-- A token of an expression. -/
inductive Token where
  | number (z : Int)
  | name (t : Text)
  | operator (t : Text)
  | unknown
  deriving DecidableEq

/-- An integer brought into the range of 64 bits by wrapping around. -/
def wrap (z : Int) : Int := Int.bmod z (Nat.pow 2 64)

/-- An integer brought into the range of 64 bits by cutting off. -/
def clamp (z : Int) : Int := max (-Int.pow 2 63) (min (Int.pow 2 63 - 1) z)

/-- The digits of a base at the head of a text, by their values. -/
def takeDigits (base : Nat) : Text → List Nat
  | [] => []
  | c :: rest =>
    match c.hexValue?.filter (· < base) with
    | some d => d :: takeDigits base rest
    | none => []

/-- The value of some digits. -/
def ofDigits (base : Nat) (digits : List Nat) : Nat := digits.foldl (fun n d => base * n + d) 0

/-- The number without a sign that a text begins with, and its length.  Numbers that begin with a
zero are octal, or hexadecimal if an X follows. -/
def takeNumber (t : Text) : Nat × Nat :=
  match t with
  | .char '0' :: x :: rest =>
    let digits := takeDigits 16 rest
    if x.lower == .char 'x' && !digits.isEmpty then (ofDigits 16 digits, digits.length + 2)
    else
      let digits := takeDigits 8 t
      (ofDigits 8 digits, digits.length)
  | _ =>
    let digits := takeDigits 10 t
    (ofDigits 10 digits, digits.length)

/-- The integer that a text begins with, after white space and perhaps with a sign, and what follows
it; without digits nothing is used up. -/
def takeInteger (t : Text) : Int × Text :=
  let unsigned := t.dropWhile isSpace
  let (negative, unsigned) := match unsigned with
    | .char '-' :: rest => (true, rest)
    | .char '+' :: rest => (false, rest)
    | _ => (false, unsigned)
  let (n, used) := takeNumber unsigned
  if used = 0 then (0, t) else (if negative then -n else n, unsigned.drop used)

/-- The value of a variable in an expression; one without a value counts as zero. -/
def valueOf (t : Text) : Except Failure Int :=
  let (z, rest) := takeInteger t
  if rest.all isSpace && clamp z == z then .ok z else .error (.illegalNumber t)

/-- The operators of expressions, longer ones first. -/
def operators : List Text :=
  [text "<<=", text ">>=", text "<=", text ">=", text "==", text "!=", text "&&", text "||",
    text "<<", text ">>", text "*=", text "/=", text "%=", text "+=", text "-=", text "&=",
    text "^=", text "|=", text "=", text "<", text ">", text "!", text "~", text "&", text "|",
    text "^", text "*", text "/", text "%", text "+", text "-", text "(", text ")", text "?",
    text ":"]

/-- The tokens of an expression; behind an unknown one nothing is read. -/
def tokens : Nat → Text → List Token
  | 0, _ => []
  | fuel + 1, t =>
    match t.dropWhile fun c => c == .char ' ' || c == .char '\t' || c == .char '\n' with
    | [] => []
    | c :: rest =>
      let t := c :: rest
      if c.asciiDigit?.isSome then
        let (n, used) := takeNumber t
        .number (clamp n) :: tokens fuel (t.drop used)
      else if isNameStart c then
        let name := t.takeWhile isNameChar
        .name name :: tokens fuel (t.drop name.length)
      else match operators.find? (Text.startsWith t) with
        | some operator => .operator operator :: tokens fuel (t.drop operator.length)
        | none => [.unknown]

/-- What is left of an expression and which variables it has set, the latest first. -/
structure State where
  rest : List Token
  assigned : List (Text × Int) := []

/-- A step of working out an expression. -/
abbrev Calculation := StateT State (Except Failure)

/-- The next token. -/
def pop : Calculation Token := do
  let state ← get
  match state.rest with
  | [] => return .unknown
  | token :: rest =>
    set { state with rest := rest }
    return token

/-- Passes over an operator, if it comes next. -/
def accept (operator : String) : Calculation Bool := do
  if (← get).rest.head? = some (.operator (text operator)) then
    let _ ← pop
    return true
  else return false

/-- The rank of an operator between two operands; a lower rank binds more closely. -/
def rank? (operator : Text) : Option Nat :=
  [[text "*", text "/", text "%"], [text "+", text "-"], [text "<<", text ">>"],
    [text "<", text "<=", text ">", text ">="], [text "==", text "!="], [text "&"], [text "^"],
    [text "|"]].findIdx? fun group => group.contains operator

/-- The integer for a truth value. -/
def ofBool (b : Bool) : Int := if b then 1 else 0

/-- An operation on the bits of two integers. -/
def onBits (operation : BitVec 64 → BitVec 64 → BitVec 64) (a b : Int) : Int :=
  (operation (.ofInt 64 a) (.ofInt 64 b)).toInt

/-- The result of an operator. -/
def apply (operator : Text) (a b : Int) : Except Failure Int :=
  match operator.toString with
  | "*" => .ok (wrap (a * b))
  | "/" => if b = 0 then .error .divisionByZero else .ok (wrap (Int.tdiv a b))
  | "%" => if b = 0 then .error .divisionByZero else .ok (Int.tmod a b)
  | "+" => .ok (wrap (a + b))
  | "-" => .ok (wrap (a - b))
  | "<<" => .ok (wrap (a * Int.pow 2 (b % 64).toNat))
  | ">>" => .ok (a.fdiv (Int.pow 2 (b % 64).toNat))
  | "<" => .ok (ofBool (a < b))
  | "<=" => .ok (ofBool (a ≤ b))
  | ">" => .ok (ofBool (a > b))
  | ">=" => .ok (ofBool (a ≥ b))
  | "==" => .ok (ofBool (a == b))
  | "!=" => .ok (ofBool (a != b))
  | "&" => .ok (onBits (· &&& ·) a b)
  | "^" => .ok (onBits (· ^^^ ·) a b)
  | _ => .ok (onBits (· ||| ·) a b)

/-- The value of a variable during the calculation. -/
def lookUp (bindings : Text → Text) (name : Text) : Calculation Int := do
  match (← get).assigned.find? fun entry => entry.1 == name with
  | some (_, z) => return z
  | none => valueOf (bindings name)

mutual

/-- An operand. -/
def primary (bindings : Text → Text) : Nat → Bool → Calculation Int
  | 0, _ => throw .expectingPrimary
  | fuel + 1, live => do
    match ← pop with
    | .number z => return z
    | .name name => if live then lookUp bindings name else return 0
    | .operator operator =>
      match operator.toString with
      | "(" =>
        let z ← assignment bindings fuel live
        if ← accept ")" then return z else throw .expectingParenthesis
      | "+" => primary bindings fuel live
      | "-" => return wrap (-(← primary bindings fuel live))
      | "!" => return ofBool ((← primary bindings fuel live) == 0)
      | "~" => return -(← primary bindings fuel live) - 1
      | _ => throw .expectingPrimary
    | .unknown => throw .expectingPrimary

/-- Operands with operators of at most the given rank between them, after the first operand. -/
def binaryAfter (bindings : Text → Text) : Nat → Bool → Nat → Int → Calculation Int
  | 0, _, _, first => return first
  | fuel + 1, live, limit, first => do
    match (← get).rest with
    | .operator operator :: _ =>
      match (rank? operator).filter (· ≤ limit) with
      | none => return first
      | some rank =>
        let _ ← pop
        let operand ← primary bindings fuel live
        let second ← if rank = 0 then pure operand
          else binaryAfter bindings fuel live (rank - 1) operand
        let result ← if live then apply operator first second else pure second
        binaryAfter bindings fuel live limit result
    | _ => return first

/-- An expression without `&&` and `||` at its top. -/
def binary (bindings : Text → Text) : Nat → Bool → Calculation Int
  | 0, _ => throw .expectingPrimary
  | fuel + 1, live => do
    binaryAfter bindings fuel live 7 (← primary bindings fuel live)

/-- Expressions with `&&` between them. -/
def both (bindings : Text → Text) : Nat → Bool → Calculation Int
  | 0, _ => throw .expectingPrimary
  | fuel + 1, live => do
    let first ← binary bindings fuel live
    if ← accept "&&" then
      let second ← both bindings fuel (live && first != 0)
      return ofBool (first != 0 && second != 0)
    else return first

/-- Expressions with `||` between them. -/
def either (bindings : Text → Text) : Nat → Bool → Calculation Int
  | 0, _ => throw .expectingPrimary
  | fuel + 1, live => do
    let first ← both bindings fuel live
    if ← accept "||" then
      let second ← either bindings fuel (live && first == 0)
      return ofBool (first != 0 || second != 0)
    else return first

/-- An expression that may be a choice between two. -/
def conditional (bindings : Text → Text) : Nat → Bool → Calculation Int
  | 0, _ => throw .expectingPrimary
  | fuel + 1, live => do
    let condition ← either bindings fuel live
    if ← accept "?" then
      let yes ← assignment bindings fuel (live && condition != 0)
      if ← accept ":" then
        let no ← conditional bindings fuel (live && condition == 0)
        return if condition != 0 then yes else no
      else throw .expectingColon
    else return condition

/-- An expression that may set a variable. -/
def assignment (bindings : Text → Text) : Nat → Bool → Calculation Int
  | 0, _ => throw .expectingPrimary
  | fuel + 1, live => do
    match (← get).rest with
    | .name name :: .operator operator :: rest =>
      let combined := operator.dropLast
      if operator.getLast? = some (.char '=')
          && (combined.isEmpty || ((rank? combined).any fun rank => rank != 3 && rank != 4)) then
        modify fun state => { state with rest := rest }
        let value ← assignment bindings fuel live
        if !live then return value
        let value ← if combined.isEmpty then pure value
          else apply combined (← lookUp bindings name) value
        modify fun state => { state with assigned := (name, value) :: state.assigned }
        return value
      else conditional bindings fuel live
    | _ => conditional bindings fuel live

end

/-- The value of an expression and the variables that it sets, the earliest first. -/
def evaluate (bindings : Text → Text) (expression : Text) :
    Except Failure (Int × List (Text × Int)) := do
  let found := tokens (expression.length + 1) expression
  let (z, state) ← (assignment bindings (8 * found.length + 16) true).run ⟨found, []⟩
  if state.rest.isEmpty then return (z, state.assigned.reverse) else throw .expectingEnd

end Arithmetic

end Shell

end DiagnosticRelay
