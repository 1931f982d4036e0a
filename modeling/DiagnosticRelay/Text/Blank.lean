import DiagnosticRelay.Text.Basic

/-!
# Blank code points

Trimming a message, finding the token after a location and reading a number with
blanks around it all use one class of blank code points: the Unicode white space
together with the four ASCII information separators U+001C to U+001F.  Numbers in
configuration values are trimmed by the narrower Unicode property, which leaves
the separators alone, so that class has a name of its own.
-/

namespace DiagnosticRelay

namespace CodePoint

/-- The code points with the Unicode property White_Space. -/
def isWhiteSpace (c : CodePoint) : Bool :=
  let n := c.value
  (0x09 ≤ n && n ≤ 0x0D) || n == 0x20 || n == 0x85 || n == 0xA0 || n == 0x1680
    || (0x2000 ≤ n && n ≤ 0x200A) || n == 0x2028 || n == 0x2029 || n == 0x202F
    || n == 0x205F || n == 0x3000

/-- White space, or one of the information separators U+001C to U+001F. -/
def isBlank (c : CodePoint) : Bool :=
  c.isWhiteSpace || (0x1C ≤ c.value && c.value ≤ 0x1F)

end CodePoint

namespace Text

/-- A text without the code points of a class at its two ends. -/
def trimBy (drop : CodePoint → Bool) (t : Text) : Text :=
  ((t.dropWhile drop).reverse.dropWhile drop).reverse

/-- A text without the blanks at its two ends. -/
def trim (t : Text) : Text := trimBy CodePoint.isBlank t

@[simp] theorem trim_nil : trim [] = [] := rfl

end Text

end DiagnosticRelay
