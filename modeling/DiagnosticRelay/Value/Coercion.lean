import DiagnosticRelay.Fault
import DiagnosticRelay.Text.Blank
import DiagnosticRelay.Value.Display

/-!
# Taking integers and text from loosely typed values

A coordinate may arrive as a number, as a string that begins with a number, or as
something useless; then the caller's default stands in.  A string contributes its
leading integer: blanks, an optional sign and the longest run of decimal digits.  The
only failure is a run with more digits than the library converts.

In the same way any value can serve as text, and the only failure is an integer with more digits
than the library writes.
-/

namespace DiagnosticRelay

/-- The integer that a text begins with, after blanks and an optional sign, if any. -/
def leadingInteger? (t : Text) : Except Fault (Option Int) :=
  let (negative, unsigned) := Decimal.takeSign (t.dropWhile CodePoint.isBlank)
  match Decimal.leadingDigits unsigned with
  | [] => .ok none
  | digits =>
    match Decimal.readDigits digits with
    | .ok n => .ok (some (Decimal.signed negative n))
    | .error count => .error (.tooManyDigits count)

namespace Value

/-- The integer that a value carries, or the default. -/
def toIntOr (default : Int) : Value → Except Fault Int
  | .int z => .ok z
  | .float x => .ok (x.truncate?.getD default)
  | .str s => (leadingInteger? s).map fun found => found.getD default
  | _ => .ok default

@[simp] theorem toIntOr_int (default z : Int) : toIntOr default (.int z) = .ok z := rfl

@[simp] theorem toIntOr_null (default : Int) : toIntOr default .null = .ok default := rfl

/-- The text of a value that is not null. -/
def toText? : Value → Except Fault (Option Text)
  | .null => .ok none
  | value => value.display.map some

end Value

end DiagnosticRelay
