import DiagnosticRelay.Text.Basic

/-!
# Letter case

Two notions of "the same letter in another case" meet in this library.

*Folding to lower case* is what a lookup of a severity token does.  Only the ASCII
letters are folded: the tokens are ASCII, and no other letter has one of their
letters as its whole lower-case form, so folding more would not find more.

*Matching a letter in either case* is what the line grammar does.  There the ASCII
letter `i` is also matched by the dotless small i, U+0131, and the dotted capital
I, U+0130, which the standard ties to `i` by simple case mappings.
-/

namespace DiagnosticRelay

namespace CodePoint

/-- The lower-case form of an ASCII letter; all else stays. -/
def lower : CodePoint → CodePoint
  | .char c => .char c.toLower
  | c => c

/-- Whether a code point matches an ASCII lower-case letter in either case. -/
def matchesLetter (c letter : CodePoint) : Bool :=
  c.lower == letter
    || (letter == .char 'i' && (c == .char '\u0130' || c == .char '\u0131'))

end CodePoint

namespace Text

/-- A text with its ASCII letters in lower case. -/
def lower (t : Text) : Text := t.map CodePoint.lower

@[simp] theorem length_lower (t : Text) : (lower t).length = t.length := by simp [lower]

/-- What follows a word of ASCII lower-case letters that is matched in either case. -/
def dropLetters? : Text → Text → Option Text
  | t, [] => some t
  | [], _ :: _ => none
  | c :: t, letter :: word => if c.matchesLetter letter then dropLetters? t word else none

end Text

end DiagnosticRelay
