import DiagnosticRelay.Number.Reading
import DiagnosticRelay.Value.Basic

/-!
# Strings, numbers and dates of a configuration document

Every reader here takes a text and gives back what it read and what follows it.  A
string, once begun, has to be completed; a date, a time or a number is recognised by its shape, so
their readers may also find nothing.
-/

namespace DiagnosticRelay

namespace Toml

/-- Why a document is refused. -/
inductive Refusal where
  | malformed
  | tooManyDigits (digits : Nat)
  deriving DecidableEq

/-- Whether a code point is a control that may not stand in a string or a comment. -/
def isForbidden (c : CodePoint) : Bool :=
  (c.value < 0x20 && c != .char '\t') || c.value == 0x7F

/-- Whether a code point is a blank within a line. -/
def isBlankInLine (c : CodePoint) : Bool := c == .char ' ' || c == .char '\t'

/-- Whether a code point is a blank or a line feed. -/
def isBlankOrBreak (c : CodePoint) : Bool := isBlankInLine c || c == .char '\n'

/-- A text without the blanks at its head. -/
def skipBlanks (t : Text) : Text := t.dropWhile isBlankInLine

/-! ## Strings -/

/-- The number that so many hexadecimal digits at the head of a text spell. -/
def hexNumber? : Nat → Nat → Text → Option Nat
  | 0, n, _ => some n
  | _ + 1, _, [] => none
  | width + 1, n, c :: rest =>
    match c.hexValue? with
    | some d => hexNumber? width (16 * n + d) rest
    | none => none

/-- The scalar value that so many hexadecimal digits after a letter spell. -/
def scalarEscape? (width : Nat) (digits : Text) : Option (Text × Nat) := do
  let n ← hexNumber? width 0 digits
  match CodePoint.ofValue? n with
  | some (.char c) => some ([.char c], width + 1)
  | _ => none

/-- What follows a backslash: the text that it stands for and the number of code points used.

In a string of several lines, a backslash at the end of a line swallows the blanks and line
feeds after it. -/
def escapeAt? (multiline : Bool) (rest : Text) : Option (Text × Nat) :=
  match rest with
  | [] => none
  | c :: after =>
    if multiline && isBlankOrBreak c then
      match skipBlanks rest with
      | [] => some ([], rest.length)
      | .char '\n' :: more => some ([], rest.length - (more.dropWhile isBlankOrBreak).length)
      | _ => none
    else match c with
    | .char 'u' => scalarEscape? 4 after
    | .char 'U' => scalarEscape? 8 after
    | .char 'b' => some ([.char '\x08'], 1)
    | .char 't' => some ([.char '\t'], 1)
    | .char 'n' => some ([.char '\n'], 1)
    | .char 'f' => some ([.char '\x0c'], 1)
    | .char 'r' => some ([.char '\r'], 1)
    | .char '"' => some ([.char '"'], 1)
    | .char '\\' => some ([.char '\\'], 1)
    | _ => none

/-- Whether three quotes of a kind stand at the head of a text. -/
def isTriple (quote : CodePoint) (t : Text) : Bool := Text.startsWith t [quote, quote, quote]

/-- The contents of a string and what follows its end.

The last number counts the code points that belong to an escape or an end already read. -/
def readQuoted (quote : CodePoint) (multiline : Bool) : Nat → Text → Option (Text × Text)
  | _, [] => none
  | skip + 1, _ :: rest => readQuoted quote multiline skip rest
  | 0, c :: rest =>
    if c = quote then
      if !multiline then some ([], rest)
      else if isTriple quote (c :: rest) then some ([], rest.drop 2)
      else (readQuoted quote multiline 0 rest).map fun (s, after) => (c :: s, after)
    else if c = .char '\\' ∧ quote = .char '"' then
      match escapeAt? multiline rest with
      | some (meaning, width) =>
        (readQuoted quote multiline width rest).map fun (s, after) => (meaning ++ s, after)
      | none => none
    else if isForbidden c && !(multiline && c == .char '\n') then none
    else (readQuoted quote multiline 0 rest).map fun (s, after) => (c :: s, after)

/-- Up to two more quotes right after the end of a string belong to the string. -/
def takeExtraQuotes (quote : CodePoint) (s after : Text) : Text × Text :=
  let extra := ((after.take 2).takeWhile (· == quote)).length
  (s ++ List.replicate extra quote, after.drop extra)

/-- The string at the head of a text, which begins with the given quote. -/
def readString (quote : CodePoint) (t : Text) : Option (Text × Text) :=
  if isTriple quote t then
    let body := match t.drop 3 with
      | .char '\n' :: rest => rest
      | rest => rest
    (readQuoted quote true 0 body).map fun (s, after) => takeExtraQuotes quote s after
  else readQuoted quote false 0 (t.drop 1)

/-! ## Numbers -/

/-- Digits with single underscores between them at the head of a text, by their values; the
first argument says whether a digit comes before. -/
def takeGrouped (value? : CodePoint → Option Nat) : Bool → Text → List Nat × Text
  | _, [] => ([], [])
  | afterDigit, c :: rest =>
    match value? c with
    | some d => let (digits, after) := takeGrouped value? true rest; (d :: digits, after)
    | none =>
      match c, rest with
      | .char '_', next :: _ =>
        if afterDigit && (value? next).isSome then takeGrouped value? false rest
        else ([], c :: rest)
      | _, _ => ([], c :: rest)

/-- The value of a digit of the given base, a power of two. -/
def baseValue? (base : Nat) (c : CodePoint) : Option Nat := c.hexValue?.filter (· < base)

/-- The number with a base mark at the head of a text. -/
def readBased? (t : Text) : Option (Value × Text) :=
  let read (base : Nat) (rest : Text) : Option (Value × Text) :=
    match takeGrouped (baseValue? base) false rest with
    | ([], _) => none
    | (digits, after) => some (.int (digits.foldl (fun n d => base * n + d) 0 : Nat), after)
  match t with
  | .char '0' :: .char 'x' :: rest => read 16 rest
  | .char '0' :: .char 'o' :: rest => read 8 rest
  | .char '0' :: .char 'b' :: rest => read 2 rest
  | _ => none

/-- The fraction at the head of a text, if a digit follows the point. -/
def takeFraction (t : Text) : Option (List Nat) × Text :=
  match t with
  | .char '.' :: rest =>
    match takeGrouped CodePoint.asciiDigit? false rest with
    | ([], _) => (none, t)
    | (digits, after) => (some digits, after)
  | _ => (none, t)

/-- The exponent at the head of a text, if a digit follows its mark and sign. -/
def takeExponent (t : Text) : Option Int × Text :=
  match t with
  | mark :: rest =>
    if mark.lower = .char 'e' then
      let (negative, unsigned) := Decimal.takeSign rest
      match takeGrouped CodePoint.asciiDigit? false unsigned with
      | ([], _) => (none, t)
      | (digits, after) => (some (Decimal.signed negative (Decimal.valueOf digits)), after)
    else (none, t)
  | [] => (none, t)

/-- The decimal number at the head of a text, if there is one. -/
def readDecimal? (t : Text) : Except Refusal (Option (Value × Text)) :=
  let (negative, unsigned) := Decimal.takeSign t
  let (whole, afterWhole) := match unsigned with
    | .char '0' :: rest => ([0], rest)
    | _ => takeGrouped CodePoint.asciiDigit? false unsigned
  if whole.isEmpty then .ok none
  else
    let (fraction, afterFraction) := takeFraction afterWhole
    let (exponent, after) := takeExponent afterFraction
    match fraction, exponent with
    | none, none =>
      match Decimal.readDigits whole with
      | .ok n => .ok (some (.int (Decimal.signed negative n), after))
      | .error digits => .error (.tooManyDigits digits)
    | fraction, exponent =>
      let fraction := fraction.getD []
      .ok (some (.float (.ofScientific negative (Decimal.valueOf (whole ++ fraction))
        (exponent.getD 0 - fraction.length)), after))

/-- The words for infinity and for no number, with their optional signs. -/
def specialFloats : List (Text × Binary64) := [
  (text "inf", .infinite false), (text "nan", .nan), (text "+inf", .infinite false),
  (text "-inf", .infinite true), (text "+nan", .nan), (text "-nan", .nan)]

/-- The number that is not finite at the head of a text, if there is one. -/
def readSpecial? (t : Text) : Option (Value × Text) :=
  specialFloats.findSome? fun (word, x) =>
    (Text.dropStart? t word).map fun after => (.float x, after)

/-! ## Dates and times -/

/-- The number that exactly so many digits at the head of a text spell, if it is in bounds. -/
def takeField? (width low high : Nat) (t : Text) : Option (Nat × Text) := do
  let digits ← (t.take width).mapM CodePoint.asciiDigit?
  let n := Decimal.valueOf digits
  if digits.length = width ∧ low ≤ n ∧ n ≤ high then some (n, t.drop width) else none

/-- What follows a mark at the head of a text. -/
def takeMark? (mark : Char) (t : Text) : Option Text := Text.dropStart? t [.char mark]

/-- The microseconds at the head of a text: six digits after a point count, and more are dropped. -/
def takeMicroseconds (t : Text) : Nat × Text :=
  match takeMark? '.' t with
  | none => (0, t)
  | some rest =>
    match Binary64.takeAsciiDigits rest with
    | ([], _) => (0, t)
    | (digits, after) =>
      let six := digits.take 6
      (Decimal.valueOf (six ++ List.replicate (6 - six.length) 0), after)

/-- A number with zeros in front up to a width. -/
def padded (width n : Nat) : Text :=
  let digits := Decimal.ofNat n
  List.replicate (width - digits.length) (.char '0') ++ digits

/-- The time at the head of a text, in its shown form. -/
def takeTime? (t : Text) : Option (Text × Text) := do
  let (hour, t) ← takeField? 2 0 23 t
  let t ← takeMark? ':' t
  let (minute, t) ← takeField? 2 0 59 t
  let t ← takeMark? ':' t
  let (second, t) ← takeField? 2 0 59 t
  let (micro, t) := takeMicroseconds t
  let shown := padded 2 hour ++ text ":" ++ padded 2 minute ++ text ":" ++ padded 2 second
  some (if micro = 0 then shown else shown ++ text "." ++ padded 6 micro, t)

/-- The offset of a time at the head of a text, in its shown form; there may be none. -/
def takeOffset (t : Text) : Text × Text :=
  let signedOffset (sign : Char) (rest : Text) : Option (Text × Text) := do
    let (hour, t) ← takeField? 2 0 23 rest
    let t ← takeMark? ':' t
    let (minute, t) ← takeField? 2 0 59 t
    let sign := if hour = 0 ∧ minute = 0 then '+' else sign
    some (.char sign :: (padded 2 hour ++ text ":" ++ padded 2 minute), t)
  match t with
  | .char 'Z' :: rest => (text "+00:00", rest)
  | .char 'z' :: rest => (text "+00:00", rest)
  | .char '+' :: rest => (signedOffset '+' rest).getD ([], t)
  | .char '-' :: rest => (signedOffset '-' rest).getD ([], t)
  | _ => ([], t)

/-- The number of days of a month. -/
def daysIn (year month : Nat) : Nat :=
  if month = 2 then
    if year % 4 = 0 ∧ (year % 100 ≠ 0 ∨ year % 400 = 0) then 29 else 28
  else if month = 4 ∨ month = 6 ∨ month = 9 ∨ month = 11 then 30
  else 31

/-- The time after a date and its separator, with its offset; there may be none. -/
def takeTimeOfDate (t : Text) : Text × Text :=
  let found : Option (Text × Text) := do
    let rest ← match t with
      | .char 'T' :: rest => some rest
      | .char 't' :: rest => some rest
      | .char ' ' :: rest => some rest
      | _ => none
    let (time, t) ← takeTime? rest
    let (offset, t) := takeOffset t
    some (.char ' ' :: (time ++ offset), t)
  found.getD ([], t)

/-- The date at the head of a text, perhaps with a time, or the time at its head.

A date of the right shape that is not in the calendar makes the document malformed. -/
def readDate? (t : Text) : Except Refusal (Option (Value × Text)) :=
  let date : Option (Nat × Nat × Nat × Text) := do
    let (year, t) ← takeField? 4 0 9999 t
    let t ← takeMark? '-' t
    let (month, t) ← takeField? 2 1 12 t
    let t ← takeMark? '-' t
    let (day, t) ← takeField? 2 1 31 t
    some (year, month, day, t)
  match date with
  | some (year, month, day, t) =>
    if year = 0 ∨ daysIn year month < day then .error .malformed
    else
      let (time, t) := takeTimeOfDate t
      .ok (some (.date (padded 4 year ++ text "-" ++ padded 2 month ++ text "-" ++ padded 2 day
        ++ time), t))
  | none => .ok ((takeTime? t).map fun (shown, t) => (.date shown, t))

end Toml

end DiagnosticRelay
