import DiagnosticRelay.Number.Binary64
import DiagnosticRelay.Number.Decimal
import DiagnosticRelay.Text.Blank
import DiagnosticRelay.Text.Casing

/-!
# Reading floating-point numbers

A number is written with an optional sign, digits with an optional point among or
beside them, and an optional exponent; or it is one of the words for infinity and for
no number, in any case.  Nothing else may stand in the text.

Two readers are built on that.  An environment variable may use the digits of any
script and underscores between digits.  A value of a configuration may have white space
around it and, instead, single underscores inside.
-/

namespace DiagnosticRelay

namespace Binary64

/-- The ASCII digits at the head of a text, by their values, and what follows them. -/
def takeAsciiDigits : Text → List Nat × Text
  | [] => ([], [])
  | c :: rest =>
    match c.asciiDigit? with
    | some d => let (digits, after) := takeAsciiDigits rest; (d :: digits, after)
    | none => ([], c :: rest)

/-- The exponent that a text consists of; an empty text stands for zero. -/
def exponent? (t : Text) : Option Int :=
  match t with
  | [] => some 0
  | mark :: rest =>
    if mark.lower = .char 'e' then
      let (negative, unsigned) := Decimal.takeSign rest
      match takeAsciiDigits unsigned with
      | ([], _) => none
      | (digits, []) => some (Decimal.signed negative (Decimal.valueOf digits))
      | _ => none
    else none

/-- The number that a text without a sign consists of. -/
def unsigned? (negative : Bool) (t : Text) : Option Binary64 :=
  let word := Text.lower t
  if word = text "inf" ∨ word = text "infinity" then some (.infinite negative)
  else if word = text "nan" then some .nan
  else
    let (whole, afterWhole) := takeAsciiDigits t
    let (fraction, after) := match afterWhole with
      | .char '.' :: rest => takeAsciiDigits rest
      | rest => ([], rest)
    if whole.isEmpty && fraction.isEmpty then none
    else (exponent? after).map fun exponent =>
      ofScientific negative (Decimal.valueOf (whole ++ fraction)) (exponent - fraction.length)

/-- The number that a text consists of. -/
def read? (t : Text) : Option Binary64 :=
  let (negative, rest) := Decimal.takeSign t
  unsigned? negative rest

/-- A text without its underscores, if each of them stands between two digits; the first argument
says whether a digit comes before the text. -/
def joinDigits? : Bool → Text → Option Text
  | _, [] => some []
  | afterDigit, c :: rest =>
    if c = .char '_' then
      match rest with
      | next :: _ =>
        if afterDigit && next.asciiDigit?.isSome then joinDigits? false rest else none
      | [] => none
    else (joinDigits? c.asciiDigit?.isSome rest).map (c :: ·)

/-- The number that a text with digits of any script, underscores and blanks around it spells. -/
def readAnyScript? (t : Text) : Option Binary64 :=
  let ascii := (Text.trim t).map fun c => match c.decimalValue? with
    | some d => .ofDigit d
    | none => c
  (joinDigits? false ascii).bind read?

/-- A text without its underscores, if none stands at an end or beside another. -/
def dropUnderscores? (t : Text) : Option Text :=
  if t.head? = some (.char '_') ∨ t.getLast? = some (.char '_') ∨ Text.hasInfix t (text "__") then
    none
  else some (t.filter (· != .char '_'))

/-- The number that a configuration's text spells. -/
def readSetting? (t : Text) : Option Binary64 :=
  match read? (Text.trimBy CodePoint.isWhiteSpace t) with
  | some x => some x
  | none => (dropUnderscores? t).bind read?

end Binary64

end DiagnosticRelay
