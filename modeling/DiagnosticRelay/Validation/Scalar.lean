import DiagnosticRelay.Number.Reading
import DiagnosticRelay.Validation.Basic

/-!
# Validation of single values

Text has to be text.  Integers, numbers and truth values are taken more freely: an
integral floating-point number is an integer, a truth value is zero or one, and a
string counts if it spells what is wanted.
-/

namespace DiagnosticRelay

namespace Validated

/-- A string. -/
def string : Value → Validated Text
  | .str s => .valid s
  | _ => misfit .stringType

/-- The bound from which on integral floating-point numbers are no longer taken as integers. -/
def wordBound : Int := Int.pow 2 63

/-- The integer that a floating-point number equals. -/
def integerOfFloat (x : Binary64) : Except Misfit Int :=
  if !x.isFinite then .error .finiteNumber
  else match x.toInt? with
    | none => .error .intFromFloat
    | some z => if -wordBound < z ∧ z < wordBound then .ok z else .error .intParsingSize

/-- A text without the point and the zeros at its end; a point alone does not end an integer. -/
def dropZeroFraction (t : Text) : Text :=
  match Text.cutAt? (.char '.') t with
  | some (whole, fraction) =>
    if !fraction.isEmpty && fraction.all (· == .char '0') then whole else t
  | none => t

/-- Whether a code point is an ASCII digit other than zero. -/
def isLeadingDigit (c : CodePoint) : Bool := c.asciiDigit?.any (· != 0)

/-- A number without the zeros and underscores at its head.

Zero keeps its last digit, and so does a number that has a point behind its zeros.  Behind zeros
there may be a minus sign, but nothing but a digit may stand at the head. -/
def dropLeadingZeros? (t : Text) : Option Text :=
  match t with
  | .char '0' :: rest =>
    match rest.dropWhile fun c => c == .char '0' || c == .char '_' with
    | [] => some (t.drop (t.length - 1))
    | c :: more =>
      if c = .char '.' then some (t.drop (t.length - more.length - 2))
      else if c == .char '-' || isLeadingDigit c then some (c :: more)
      else none
  | c :: _ => if isLeadingDigit c then some t else none
  | [] => none

/-- The integer that a text of ASCII digits spells, perhaps with a minus sign, without superfluous
zeros.  The length of the run of digits is limited, whatever its sign, and too long a run is not
looked past. -/
def plainInteger (t : Text) : Except Misfit Int :=
  let (negative, unsigned) := match t with
    | .char '-' :: rest => (true, rest)
    | _ => (false, t)
  match Binary64.takeAsciiDigits unsigned with
  | ([], _) => .error .intParsing
  | (0 :: _ :: _, _) => .error .intParsing
  | (digits, after) => match Decimal.readDigits digits with
    | .error _ => .error .intParsingSize
    | .ok n => if after.isEmpty then .ok (Decimal.signed negative n) else .error .intParsing

/-- A number without its plus sign and without the zeros behind its sign. -/
def dropPadding? : Text → Option Text
  | .char '+' :: rest => if rest.head? = some (.char '-') then none else dropLeadingZeros? rest
  | .char '-' :: rest => (dropLeadingZeros? rest).map (.char '-' :: ·)
  | t => dropLeadingZeros? t

/-- The integer that a string spells: white space around it, a plus sign, zeros at its head, a zero
fraction and single underscores inside are passed over. -/
def integerOfText (t : Text) : Except Misfit Int :=
  match dropPadding? (Text.trimBy CodePoint.isWhiteSpace t) with
  | none => .error .intParsing
  | some t =>
    let t := dropZeroFraction t
    plainInteger ((Binary64.dropUnderscores? t).getD t)

/-- The outcome that a conversion amounts to. -/
def ofConversion {α : Type} : Except Misfit α → Validated α
  | .ok a => .valid a
  | .error kind => misfit kind

/-- A validation of a string that is read: it must not hold a surrogate half. -/
def wellFormed {α : Type} (s : Text) (validate : Validated α) : Validated α :=
  if s.all CodePoint.isScalar then validate else misfit .stringUnicode

/-- An integer. -/
def integer : Value → Validated Int
  | .int z => .valid z
  | .bool b => .valid (if b then 1 else 0)
  | .float x => ofConversion (integerOfFloat x)
  | .str s => wellFormed s (ofConversion (integerOfText s))
  | _ => misfit .intType

/-- A floating-point number. -/
def number : Value → Validated Binary64
  | .float x => .valid x
  | .int z =>
    let x := Binary64.ofInt z
    if x.isFinite then .valid x else misfit .floatType
  | .bool b => .valid (Binary64.ofInt (if b then 1 else 0))
  | .str s => wellFormed s <| match Binary64.readSetting? s with
    | some x => .valid x
    | none => misfit .floatParsing
  | _ => misfit .floatType

/-- The words for the two truth values. -/
def truthWords : List (Text × Bool) := [
  (text "0", false), (text "off", false), (text "f", false), (text "false", false),
  (text "n", false), (text "no", false), (text "1", true), (text "on", true),
  (text "t", true), (text "true", true), (text "y", true), (text "yes", true)]

/-- The truth value of an integer. -/
def truthOfInt (z : Int) : Validated Bool :=
  if z = 0 then .valid false else if z = 1 then .valid true else misfit .boolParsing

/-- A truth value. -/
def truth : Value → Validated Bool
  | .bool b => .valid b
  | .str s => wellFormed s <| match truthWords.find? fun word => word.1 == Text.lower s with
    | some (_, b) => .valid b
    | none => misfit .boolParsing
  | .int z => if -wordBound ≤ z ∧ z < wordBound then truthOfInt z else misfit .boolType
  | .float x => match integerOfFloat x with
    | .ok z => truthOfInt z
    | .error _ => misfit .boolType
  | _ => misfit .boolType

end Validated

end DiagnosticRelay
