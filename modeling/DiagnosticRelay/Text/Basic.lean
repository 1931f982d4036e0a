/-!
# Text as a list of code points

A checker talks to its host in JSON, and a JSON string may spell half of a
surrogate pair without its partner.  Such a half is not a Unicode scalar value,
so Lean's `String` cannot hold it; yet it travels through the whole pipeline and
comes out again in the answer.  Text is therefore a list of *code points*, where a
code point is either a scalar value (a `Char`) or a lone surrogate half.

The two constructors keep the ordinary case readable: a pattern `.char ':'`
matches a colon, and nothing in the library needs to know the numbers of the
surrogates except the modules that read and write escapes.

The order on code points, and with it the order on texts, is the order of their
numbers, so that surrogate halves sort between U+D7FF and U+E000.
-/

namespace DiagnosticRelay

/-- A code point is a scalar value or a surrogate half standing alone. -/
inductive CodePoint where
  | char (c : Char)
  | surrogate (half : Fin 0x800)
  deriving DecidableEq, Inhabited

namespace CodePoint

/-- The number of a code point; surrogate halves start at U+D800. -/
def value : CodePoint → Nat
  | .char c => c.toNat
  | .surrogate half => 0xD800 + half.val

@[simp] theorem value_char (c : Char) : (CodePoint.char c).value = c.toNat := rfl

@[simp] theorem value_surrogate (half : Fin 0x800) :
    (CodePoint.surrogate half).value = 0xD800 + half.val := rfl

/-- The code point of a number, if the number is at most U+10FFFF. -/
def ofValue? (n : Nat) : Option CodePoint :=
  if h : n.isValidChar then some (.char (Char.ofNatAux n h))
  else if h : 0xD800 ≤ n ∧ n < 0xE000 then some (.surrogate ⟨n - 0xD800, by omega⟩)
  else none

/-- The code point of a number, with U+FFFD for numbers past the last one. -/
def ofValue (n : Nat) : CodePoint := (ofValue? n).getD (.char '\uFFFD')

/-- The value of an ASCII hexadecimal digit. -/
def hexValue? (c : CodePoint) : Option Nat :=
  let n := c.value
  if 0x30 ≤ n ∧ n ≤ 0x39 then some (n - 0x30)
  else if 0x41 ≤ n ∧ n ≤ 0x46 then some (n - 0x41 + 10)
  else if 0x61 ≤ n ∧ n ≤ 0x66 then some (n - 0x61 + 10)
  else none

/-- The value of an ASCII decimal digit. -/
def asciiDigit? (c : CodePoint) : Option Nat :=
  let n := c.value
  if 0x30 ≤ n ∧ n ≤ 0x39 then some (n - 0x30) else none

/-- Whether a code point is a scalar value and no lone surrogate half. -/
def isScalar : CodePoint → Bool
  | .char _ => true
  | .surrogate _ => false

/-- Whether a code point is one of the 52 ASCII letters. -/
def isAsciiLetter (c : CodePoint) : Bool :=
  let n := c.value
  (0x41 ≤ n && n ≤ 0x5A) || (0x61 ≤ n && n ≤ 0x7A)

end CodePoint

/-- Text is a list of code points. -/
abbrev Text := List CodePoint

/-- The text of a string of scalar values. -/
def text (s : String) : Text := s.toList.map .char

@[simp] theorem text_empty : text "" = [] := rfl

namespace Text

/-- The scalar values of a text, with U+FFFD in the place of a surrogate half. -/
def toString (t : Text) : String :=
  String.ofList (t.map fun c => match c with
    | .char c => c
    | .surrogate _ => '\uFFFD')

/-- Lexicographic order by code point number. -/
def compare : Text → Text → Ordering
  | [], [] => .eq
  | [], _ :: _ => .lt
  | _ :: _, [] => .gt
  | a :: s, b :: t => (Ord.compare a.value b.value).then (compare s t)

/-- Whether the first text does not come after the second. -/
def le (s t : Text) : Bool := compare s t != .gt

/-- Whether a text begins with another. -/
def startsWith (t start : Text) : Bool := start.isPrefixOf t

/-- What follows a given beginning, if the text has that beginning. -/
def dropStart? : Text → Text → Option Text
  | t, [] => some t
  | [], _ :: _ => none
  | c :: t, d :: start => if c = d then dropStart? t start else none

/-- Whether a text ends with another. -/
def endsWith (t finish : Text) : Bool := finish.reverse.isPrefixOf t.reverse

/-- Whether a text holds another as a contiguous part. -/
def hasInfix (t part : Text) : Bool :=
  part.isPrefixOf t || match t with
    | [] => false
    | _ :: rest => hasInfix rest part

/-- The pieces between the occurrences of a separator; there is always at least one piece. -/
def splitOn (separator : CodePoint) : Text → List Text
  | [] => [[]]
  | c :: rest =>
    if c = separator then [] :: splitOn separator rest
    else match splitOn separator rest with
      | [] => [[c]]
      | piece :: pieces => (c :: piece) :: pieces

@[simp] theorem splitOn_nil (separator : CodePoint) : splitOn separator [] = [[]] := rfl

/-- The pieces of several texts with a separator between each two. -/
def join (separator : Text) : List Text → Text
  | [] => []
  | [piece] => piece
  | piece :: next :: pieces => piece ++ separator ++ join separator (next :: pieces)

@[simp] theorem join_nil (separator : Text) : join separator [] = [] := rfl

@[simp] theorem join_singleton (separator piece : Text) : join separator [piece] = piece := rfl

/-- The parts before and after the first occurrence of a code point. -/
def cutAt? (mark : CodePoint) : Text → Option (Text × Text)
  | [] => none
  | c :: rest =>
    if c = mark then some ([], rest)
    else (cutAt? mark rest).map fun parts => (c :: parts.1, parts.2)

/-- The parts before and after the last occurrence of a code point. -/
def cutAtLast? (mark : CodePoint) (t : Text) : Option (Text × Text) :=
  (cutAt? mark t.reverse).map fun parts => (parts.2.reverse, parts.1.reverse)

/-- The text with every occurrence of one code point written as another. -/
def replaceAll (old new : CodePoint) (t : Text) : Text :=
  t.map fun c => if c = old then new else c

end Text

end DiagnosticRelay
