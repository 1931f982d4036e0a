import DiagnosticRelay.Json.Failure
import DiagnosticRelay.Value.Basic

/-!
# Reading JSON

The reader turns a document into a value or says where the document stops being one.
Blanks are the four that JSON allows; strings may not hold control characters, and an
escape of a surrogate half is joined with the one after it if the two form a pair,
and otherwise stands for the half itself.

Numbers are taken as long as possible: a point or an exponent without digits after it
is left for the next token, which then refuses it.  A number with neither is an
integer of any size up to the digit limit, any other is floating point.

## Shape

Strings and numbers are scanned on their own, by recursion on the text.  The three
functions for values, items and members call one another; they are given fuel, twice
the length of the document, and each call uses one unit while every second call
takes at least one code point away, so the fuel never runs out.  The depth of nesting
is bounded apart from it.

The only choice left open to a caller is whether the literals for NaN and the
infinities are accepted (`Literals`).  Tool output is read without them.
-/

namespace DiagnosticRelay

namespace Json

/-- Whether the literals of numbers that are not finite are part of the language. -/
inductive Literals where
  | finite
  | extended
  deriving DecidableEq

/-- The number of containers that may stand inside one another. -/
def depthLimit : Nat := 990

/-- Whether a code point is one of the four blanks of JSON. -/
def isSpace (c : CodePoint) : Bool :=
  c == .char ' ' || c == .char '\n' || c == .char '\r' || c == .char '\t'

/-- A text without the JSON blanks at its head. -/
def skipSpace (t : Text) : Text := t.dropWhile isSpace

/-- The code point of an escape of one letter. -/
def simpleEscape? : CodePoint → Option CodePoint
  | .char '"' => some (.char '"')
  | .char '\\' => some (.char '\\')
  | .char '/' => some (.char '/')
  | .char 'b' => some (.char '\x08')
  | .char 'f' => some (.char '\x0c')
  | .char 'n' => some (.char '\n')
  | .char 'r' => some (.char '\r')
  | .char 't' => some (.char '\t')
  | _ => none

/-- The number written by four hexadecimal digits. -/
def hexFour? (a b c d : CodePoint) : Option Nat := do
  let a ← a.hexValue?
  let b ← b.hexValue?
  let c ← c.hexValue?
  let d ← d.hexValue?
  some (((a * 16 + b) * 16 + c) * 16 + d)

/-- The number of the code point that a surrogate pair stands for. -/
def joinPair (high low : Nat) : Nat := 0x10000 + (high - 0xD800) * 0x400 + (low - 0xDC00)

/-- What an escape after a backslash stands for, and how many code points it takes.

A four-digit escape needs one more code point after it, since a string has to be closed;
the second half of a pair is looked for only if as much is left after it. -/
def escapeAt (rest : Text) : Except Failure (CodePoint × Nat) :=
  match rest with
  | .char 'u' :: digits =>
    match digits with
    | a :: b :: c :: d :: next :: after =>
      match hexFour? a b c d with
      | none => .error (.misplaced .badUnicodeEscape rest.length)
      | some high =>
        let alone := (CodePoint.ofValue high, 5)
        if 0xD800 ≤ high ∧ high < 0xDC00 then
          match next, after with
          | .char '\\', .char 'u' :: e :: f :: g :: h :: _ :: _ =>
            match hexFour? e f g h with
            | none => .error (.misplaced .badUnicodeEscape after.length)
            | some low =>
              if 0xDC00 ≤ low ∧ low < 0xE000 then .ok (.ofValue (joinPair high low), 11)
              else .ok alone
          | _, _ => .ok alone
        else .ok alone
    | _ => .error (.misplaced .badUnicodeEscape rest.length)
  | c :: _ =>
    match simpleEscape? c with
    | some meaning => .ok (meaning, 1)
    | none => .error (.misplaced .badEscape (rest.length + 1))
  | [] => .error (.misplaced .badEscape 1)

/-- The contents of a string and the text after its closing quote.

The first argument is the text from the opening quote on, the second the number of code points
that belong to an escape already read. -/
def readString (opening : Text) : Nat → Text → Except Failure (Text × Text)
  | _, [] => .error (.misplaced .unterminatedString opening.length)
  | skip + 1, _ :: rest => readString opening skip rest
  | 0, c :: rest =>
    if c = .char '"' then .ok ([], rest)
    else if c = .char '\\' then
      if rest.isEmpty then .error (.misplaced .unterminatedString opening.length)
      else
        match escapeAt rest with
        | .error failure => .error failure
        | .ok (meaning, width) =>
          (readString opening width rest).map fun (s, after) => (meaning :: s, after)
    else if c.value < 0x20 then .error (.misplaced .controlCharacter (rest.length + 1))
    else (readString opening 0 rest).map fun (s, after) => (c :: s, after)

/-- The ASCII digits at the head of a text, by their values, and what follows them. -/
def takeDigits : Text → List Nat × Text
  | [] => ([], [])
  | c :: rest =>
    match c.asciiDigit? with
    | some d => let (digits, after) := takeDigits rest; (d :: digits, after)
    | none => ([], c :: rest)

/-- A number as it is written: sign, whole digits, digits after the point, exponent. -/
structure Numeral where
  negative : Bool
  whole : List Nat
  fraction : Option (List Nat)
  exponent : Option Int

/-- The fraction at the head of a text, if a digit follows the point. -/
def takeFraction (t : Text) : Option (List Nat) × Text :=
  match t with
  | .char '.' :: rest =>
    match takeDigits rest with
    | ([], _) => (none, t)
    | (digits, after) => (some digits, after)
  | _ => (none, t)

/-- The exponent at the head of a text, if a digit follows its mark and sign. -/
def takeExponent (t : Text) : Option Int × Text :=
  match t with
  | .char mark :: rest =>
    if mark = 'e' ∨ mark = 'E' then
      let (negative, unsigned) := Decimal.takeSign rest
      match takeDigits unsigned with
      | ([], _) => (none, t)
      | (digits, after) => (some (Decimal.signed negative (Decimal.valueOf digits)), after)
    else (none, t)
  | _ => (none, t)

/-- The longest number at the head of a text. -/
def takeNumeral? (t : Text) : Option (Numeral × Text) :=
  let (negative, unsigned) := match t with
    | .char '-' :: rest => (true, rest)
    | _ => (false, t)
  let whole := match unsigned with
    | .char '0' :: rest => ([0], rest)
    | _ => takeDigits unsigned
  if whole.1.isEmpty then none
  else
    let (fraction, afterFraction) := takeFraction whole.2
    let (exponent, after) := takeExponent afterFraction
    some (⟨negative, whole.1, fraction, exponent⟩, after)

/-- The value of a number as it is written. -/
def Numeral.value (numeral : Numeral) : Except Failure Value :=
  match numeral.fraction, numeral.exponent with
  | none, none =>
    match Decimal.readDigits numeral.whole with
    | .ok n => .ok (.int (Decimal.signed numeral.negative n))
    | .error digits => .error (.tooManyDigits digits)
  | fraction, exponent =>
    let fraction := fraction.getD []
    .ok (.float (.ofScientific numeral.negative (Decimal.valueOf (numeral.whole ++ fraction))
      (exponent.getD 0 - fraction.length)))

/-- The numbers that are not finite, by their literals. -/
def nonFiniteLiterals : List (Text × Binary64) :=
  [(text "NaN", .nan), (text "Infinity", .infinite false), (text "-Infinity", .infinite true)]

/-- The literal of a number that is not finite at the head of a text, and what follows it. -/
def takeNonFinite? (t : Text) : Option (Text × Binary64 × Text) :=
  nonFiniteLiterals.findSome? fun (name, x) =>
    (Text.dropStart? t name).map fun after => (name, x, after)

/-- A scalar other than a string at the head of a text. -/
def readScalar (literals : Literals) (t : Text) : Except Failure (Value × Text) :=
  match Text.dropStart? t (text "null") with
  | some after => .ok (.null, after)
  | none =>
  match Text.dropStart? t (text "true") with
  | some after => .ok (.bool true, after)
  | none =>
  match Text.dropStart? t (text "false") with
  | some after => .ok (.bool false, after)
  | none =>
  match takeNonFinite? t with
  | some (name, x, after) =>
    match literals with
    | .finite => .error (.nonFinite name)
    | .extended => .ok (.float x, after)
  | none =>
  match takeNumeral? t with
  | some (numeral, after) => numeral.value.map fun value => (value, after)
  | none => .error (.misplaced .expectedValue t.length)

mutual

/-- The value at the head of a text, with so much fuel and so many levels left. -/
def readValue (literals : Literals) : Nat → Nat → Text → Except Failure (Value × Text)
  | 0, _, t => .error (.misplaced .expectedValue t.length)
  | fuel + 1, depth, t =>
    match t with
    | .char '"' :: rest =>
      (readString t 0 rest).map fun (s, after) => (.str s, after)
    | .char '[' :: rest =>
      match depth with
      | 0 => .error (.tooDeep .array)
      | depth + 1 =>
        match skipSpace rest with
        | .char ']' :: after => .ok (.list [], after)
        | items =>
          (readItems literals fuel depth items).map fun (items, after) => (.list items, after)
    | .char '\x7b' :: rest =>
      match depth with
      | 0 => .error (.tooDeep .object)
      | depth + 1 =>
        match skipSpace rest with
        | .char '\x7d' :: after => .ok (.object [], after)
        | members =>
          (readMembers literals fuel depth members).map fun (members, after) =>
            (.object (Members.ofList members), after)
    | _ => readScalar literals t

/-- The items up to the closing bracket. -/
def readItems (literals : Literals) : Nat → Nat → Text → Except Failure (List Value × Text)
  | 0, _, t => .error (.misplaced .expectedValue t.length)
  | fuel + 1, depth, t =>
    match readValue literals fuel depth t with
    | .error failure => .error failure
    | .ok (item, rest) =>
      match skipSpace rest with
      | .char ']' :: after => .ok ([item], after)
      | .char ',' :: more =>
        (readItems literals fuel depth (skipSpace more)).map fun (items, after) =>
          (item :: items, after)
      | other => .error (.misplaced .expectedComma other.length)

/-- The members up to the closing brace, repeated keys included. -/
def readMembers (literals : Literals) :
    Nat → Nat → Text → Except Failure (List (Text × Value) × Text)
  | 0, _, t => .error (.misplaced .expectedKey t.length)
  | fuel + 1, depth, t =>
    match t with
    | .char '"' :: rest =>
      match readString t 0 rest with
      | .error failure => .error failure
      | .ok (key, rest) =>
        match skipSpace rest with
        | .char ':' :: rest =>
          match readValue literals fuel depth (skipSpace rest) with
          | .error failure => .error failure
          | .ok (value, rest) =>
            match skipSpace rest with
            | .char '\x7d' :: after => .ok ([(key, value)], after)
            | .char ',' :: more =>
              (readMembers literals fuel depth (skipSpace more)).map fun (members, after) =>
                ((key, value) :: members, after)
            | other => .error (.misplaced .expectedComma other.length)
        | other => .error (.misplaced .expectedColon other.length)
    | other => .error (.misplaced .expectedKey other.length)

end

/-- The value of a document in the given language. -/
def readWith (literals : Literals) (document : Text) : Except Failure Value :=
  if Text.startsWith document [.char '\uFEFF'] then
    .error (.misplaced .byteOrderMark document.length)
  else
    match readValue literals (2 * document.length + 2) depthLimit (skipSpace document) with
    | .error failure => .error failure
    | .ok (value, rest) =>
      match skipSpace rest with
      | [] => .ok value
      | extra => .error (.misplaced .extraData extra.length)

/-- The value of a document of tool output. -/
def read (document : Text) : Except Failure Value := readWith .finite document

end Json

end DiagnosticRelay
