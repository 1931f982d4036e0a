import DiagnosticRelay.Shell.Syntax

/-!
# Patterns

A pattern stands for texts: a star for any text, a question mark for any code point, a set
in brackets for one of its members, anything else for itself.  A code point that was quoted
always stands for itself, so a pattern is read from code points that carry that mark.
-/

namespace DiagnosticRelay

namespace Shell

/-- A code point of a word and whether it was quoted. -/
abbrev Mark := CodePoint × Bool

/-- The marks of a text. -/
def marks (quoted : Bool) (t : Text) : List Mark := t.map fun c => (c, quoted)

/-- An item of a pattern. -/
inductive PatternItem where
  | anyText
  | anyOne
  | exactly (c : CodePoint)
  | oneOf (negated : Bool) (ranges : List (Nat × Nat))
  deriving DecidableEq

/-- A pattern is a list of items. -/
abbrev Pattern := List PatternItem

namespace Pattern

/-- The ranges of the named classes of octets. -/
def classRanges (name : Text) : List (Nat × Nat) :=
  let digits := (0x30, 0x39)
  let upper := (0x41, 0x5A)
  let lower := (0x61, 0x7A)
  match name.toString with
  | "digit" => [digits]
  | "upper" => [upper]
  | "lower" => [lower]
  | "alpha" => [upper, lower]
  | "alnum" => [digits, upper, lower]
  | "xdigit" => [digits, (0x41, 0x46), (0x61, 0x66)]
  | "space" => [(0x09, 0x0D), (0x20, 0x20)]
  | "blank" => [(0x09, 0x09), (0x20, 0x20)]
  | "cntrl" => [(0x00, 0x1F), (0x7F, 0x7F)]
  | "print" => [(0x20, 0x7E)]
  | "graph" => [(0x21, 0x7E)]
  | "punct" => [(0x21, 0x2F), (0x3A, 0x40), (0x5B, 0x60), (0x7B, 0x7E)]
  | _ => []

/-- The class in brackets and colons that some marks begin with, and what follows it. -/
def namedClass? (t : List Mark) : Option (List (Nat × Nat) × List Mark) :=
  match t with
  | (.char '[', _) :: (.char ':', _) :: rest =>
    let name := rest.takeWhile fun mark => mark.1.isAsciiLetter
    match rest.drop name.length with
    | (.char ':', _) :: (.char ']', _) :: after => some (classRanges (name.map (·.1)), after)
    | _ => none
  | _ => none

/-- The ranges of a set up to its closing bracket, and what follows it.  A bracket in the first
place is a member. -/
def setRanges? : Nat → Bool → List Mark → Option (List (Nat × Nat) × List Mark)
  | 0, _, _ => none
  | fuel + 1, first, t =>
    match namedClass? t with
    | some (ranges, rest) =>
      (setRanges? fuel false rest).map fun (more, after) => (ranges ++ more, after)
    | none =>
      match t with
      | [] => none
      | (c, quoted) :: rest =>
        if c == .char ']' && !quoted && !first then some ([], rest)
        else match rest with
          | (.char '-', false) :: (high, highQuoted) :: after =>
            if high == .char ']' && !highQuoted then
              (setRanges? fuel false rest).map fun (more, after) =>
                ((c.value, c.value) :: more, after)
            else (setRanges? fuel false after).map fun (more, after) =>
              ((c.value, high.value) :: more, after)
          | _ => (setRanges? fuel false rest).map fun (more, after) =>
            ((c.value, c.value) :: more, after)

/-- The item that an opening bracket begins, and what follows it. -/
def set? (t : List Mark) : Option (PatternItem × List Mark) :=
  let (negated, members) := match t with
    | (.char '!', false) :: rest => (true, rest)
    | (.char '^', false) :: rest => (true, rest)
    | _ => (false, t)
  (setRanges? (members.length + 1) true members).map fun (ranges, after) =>
    (.oneOf negated ranges, after)

/-- The pattern that some marks spell. -/
def ofMarks : Nat → List Mark → Pattern
  | 0, _ => []
  | _ + 1, [] => []
  | fuel + 1, (c, quoted) :: rest =>
    if quoted then .exactly c :: ofMarks fuel rest
    else if c = .char '*' then .anyText :: ofMarks fuel rest
    else if c = .char '?' then .anyOne :: ofMarks fuel rest
    else if c = .char '[' then
      match set? rest with
      | some (item, after) => item :: ofMarks fuel after
      | none => .exactly c :: ofMarks fuel rest
    else if c = .char '\\' then
      match rest with
      | (d, _) :: after => .exactly d :: ofMarks fuel after
      | [] => [.exactly c]
    else .exactly c :: ofMarks fuel rest

/-- The pattern that some marks spell. -/
def read (t : List Mark) : Pattern := ofMarks (t.length + 1) t

/-- Whether a pattern has an item that does not stand for itself. -/
def isOpen (pattern : Pattern) : Bool := pattern.any fun item => match item with
  | .exactly _ => false
  | _ => true

/-- Whether a single code point fits an item. -/
def admits : PatternItem → CodePoint → Bool
  | .anyText, _ => true
  | .anyOne, _ => true
  | .exactly c, d => c == d
  | .oneOf negated ranges, d =>
    negated != ranges.any fun range => range.1 ≤ d.value && d.value ≤ range.2

/-- Whether a text fits a pattern. -/
def fits : Pattern → Text → Bool
  | [], t => t.isEmpty
  | .anyText :: items, t =>
    fits items t || match t with
      | [] => false
      | _ :: rest => fits (.anyText :: items) rest
  | item :: items, t => match t with
    | [] => false
    | c :: rest => admits item c && fits items rest
termination_by items t => (items.length, t.length)

/-- A text without the shortest or longest beginning that fits a pattern. -/
def trimStart (pattern : Pattern) (longest : Bool) (t : Text) : Text :=
  let lengths := List.range (t.length + 1)
  let lengths := if longest then lengths.reverse else lengths
  match lengths.find? fun n => fits pattern (t.take n) with
  | some n => t.drop n
  | none => t

/-- A text without the shortest or longest end that fits a pattern. -/
def trimEnd (pattern : Pattern) (longest : Bool) (t : Text) : Text :=
  let lengths := List.range (t.length + 1)
  let lengths := if longest then lengths else lengths.reverse
  match lengths.find? fun n => fits pattern (t.drop n) with
  | some n => t.take n
  | none => t

end Pattern

end Shell

end DiagnosticRelay
