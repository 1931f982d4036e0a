import DiagnosticRelay.Severity
import DiagnosticRelay.Text.Blank

/-!
# Lines that begin with a location

Compilers report on lines of the form `path:line:column: severity: message`, and
some leave the column out.  Such a line is a nonempty path, one or two runs of decimal digits
each after a colon, one more colon, blanks, a severity word in any case, and a
nonempty rest.

A path may itself hold colons and digits, so a line can be cut in several ways.  The
cut with the shortest path is the one that counts, and it fixes everything else: a
run of digits is bounded by the colon after it, the blanks by the word after them, and the four
words begin with different letters.

## The message

What follows the word is blanks, at most one colon, blanks again, and the message.
Each of the three is taken as long as possible, the first one first, but so that at
least one code point is left for the message.  The message is free of line feeds; one line
feed may stand after it, at the very end.  A line normally holds no line feed at all, and then
the message is just the rest.
-/

namespace DiagnosticRelay

namespace LineGrammar

/-- A line cut into its parts; digits are kept by their values. -/
structure Location where
  path : Text
  row : List Nat
  column : Option (List Nat)
  token : Text
  message : Text
  deriving DecidableEq

/-- The line feed. -/
def lineFeed : CodePoint := .char '\n'

/-- The decimal digits at the head of a text, by their values, and what follows them. -/
def takeDigits (t : Text) : List Nat × Text :=
  let digits := Decimal.leadingDigits t
  (digits, t.drop digits.length)

/-- A nonempty run of decimal digits after a colon, and what follows it. -/
def takeColonDigits? (t : Text) : Option (List Nat × Text) :=
  match t with
  | .char ':' :: rest =>
    match takeDigits rest with
    | ([], _) => none
    | (digits, after) => some (digits, after)
  | _ => none

/-- What may follow some of the blanks at the head of a text, put before what may follow fewer
blanks. -/
def afterBlanksOnto (fewer : List Text) : Text → List Text
  | [] => [] :: fewer
  | c :: rest =>
    if c.isBlank then afterBlanksOnto ((c :: rest) :: fewer) rest else (c :: rest) :: fewer

/-- What may follow some of the blanks at the head of a text, the longest run of blanks first. -/
def afterBlanks (t : Text) : List Text := afterBlanksOnto [] t

/-- What may follow an optional colon, the colon taken first. -/
def afterColon (t : Text) : List Text :=
  match t with
  | .char ':' :: rest => [rest, t]
  | _ => [t]

/-- The message that a text consists of, if it is not empty and nothing but one line feed
follows it. -/
def wholeMessage? (t : Text) : Option Text :=
  let message := t.takeWhile (· != lineFeed)
  let after := t.drop message.length
  if message.isEmpty then none
  else if after = [] ∨ after = [lineFeed] then some message
  else none

/-- The message after a severity word. -/
def messageAfterToken? (t : Text) : Option Text :=
  (afterBlanks t).findSome? fun t =>
    (afterColon t).findSome? fun t =>
      (afterBlanks t).findSome? wholeMessage?

/-- The severity word at the head of a text, as it is spelled, and the message after it. -/
def tokenAndMessage? (t : Text) : Option (Text × Text) :=
  Severity.all.findSome? fun severity => do
    let after ← Text.dropLetters? t severity.name
    let message ← messageAfterToken? after
    some (t.take severity.name.length, message)

/-- The parts of a line from the colon after its path on, with an empty path. -/
def afterPath? (hasColumn : Bool) (t : Text) : Option Location := do
  let (row, t) ← takeColonDigits? t
  let (column, t) ← if hasColumn then
      (takeColonDigits? t).map fun (digits, t) => (some digits, t)
    else some (none, t)
  match t with
  | .char ':' :: t =>
    let (token, message) ← tokenAndMessage? (t.dropWhile CodePoint.isBlank)
    some ⟨[], row, column, token, message⟩
  | _ => none

/-- Tries ever longer paths; the first argument is the path so far, backwards. -/
def extendPath? (hasColumn : Bool) : Text → Text → Option Location
  | _, [] => none
  | path, c :: rest =>
    match if path.isEmpty then none else afterPath? hasColumn (c :: rest) with
    | some location => some { location with path := path.reverse }
    | none => if c = lineFeed then none else extendPath? hasColumn (c :: path) rest

/-- The cut of a line with the shortest path. -/
def location? (hasColumn : Bool) (line : Text) : Option Location := extendPath? hasColumn [] line

end LineGrammar

end DiagnosticRelay
