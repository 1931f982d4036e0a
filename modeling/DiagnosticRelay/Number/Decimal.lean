import DiagnosticRelay.Text.DecimalDigit

/-!
# Whole numbers in decimal

Numbers are written in ASCII digits without leading zeros.  A run of digits is read
by position, whatever script each digit comes from, but only up to a fixed length:
a run of more than 4300 digits is refused rather than converted, and leading zeros
count towards the length.  The limit holds in the other direction, too: a number with more
digits is not written (`isShort`).
-/

namespace DiagnosticRelay

namespace Decimal

/-- The longest run of digits that is turned into a number, or made of one. -/
def digitLimit : Nat := 4300

/-- The digits of a number, in front of a text. -/
def digitsOnto (n : Nat) (rest : Text) : Text :=
  if n < 10 then .ofDigit n :: rest
  else digitsOnto (n / 10) (.ofDigit (n % 10) :: rest)

/-- A natural number in decimal. -/
def ofNat (n : Nat) : Text := digitsOnto n []

/-- An integer in decimal, with a minus sign if it is negative. -/
def ofInt : Int → Text
  | .ofNat n => ofNat n
  | .negSucc n => .char '-' :: ofNat (n + 1)

/-- Whether an integer has no more digits than are written; its sign does not count. -/
def isShort (z : Int) : Bool := (ofNat z.natAbs).length ≤ digitLimit

/-- The number that a list of digit values stands for. -/
def valueOf (digits : List Nat) : Nat := digits.foldl (fun n d => 10 * n + d) 0

@[simp] theorem valueOf_nil : valueOf [] = 0 := rfl

/-- An integer from its sign and its magnitude. -/
def signed (negative : Bool) (n : Nat) : Int := if negative then -(n : Int) else n

@[simp] theorem signed_false (n : Nat) : signed false n = n := rfl

@[simp] theorem signed_true (n : Nat) : signed true n = -(n : Int) := rfl

/-- The values of the digits at the head of a text. -/
def leadingDigits : Text → List Nat
  | [] => []
  | c :: rest => match c.decimalValue? with
    | some d => d :: leadingDigits rest
    | none => []

@[simp] theorem leadingDigits_nil : leadingDigits [] = [] := rfl

/-- The sign at the head of a text, negative or not, and what follows it. -/
def takeSign : Text → Bool × Text
  | .char '-' :: rest => (true, rest)
  | .char '+' :: rest => (false, rest)
  | t => (false, t)

/-- The number written by a run of digits, or the length of a run that is too long. -/
def readDigits (digits : List Nat) : Except Nat Nat :=
  if digits.length ≤ digitLimit then .ok (valueOf digits) else .error digits.length

end Decimal

end DiagnosticRelay
