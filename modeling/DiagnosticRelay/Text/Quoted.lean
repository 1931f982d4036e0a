import DiagnosticRelay.Text.Printable

/-!
# Quoted text

A text inside a list or a message is shown between quotes.  The quote is the
apostrophe, unless the text holds apostrophes and no double quote.  The backslash
and the chosen quote are escaped by a backslash; tab, line feed and carriage return
have letters of their own; every other code point that is not printable is written
in hexadecimal with two, four or eight digits, whichever is the least that holds it.

Octets are quoted in the same way after the letter `b`, and only ASCII is printable
among them.
-/

namespace DiagnosticRelay

namespace Text

/-- The lower-case hexadecimal digit of a value below sixteen. -/
def hexDigit (d : Nat) : CodePoint := .char (Nat.digitChar d)

/-- The lowest hexadecimal digits of a number, so many as the first argument says. -/
def hexDigits : Nat → Nat → Text
  | 0, _ => []
  | width + 1, n => hexDigits width (n / 16) ++ [hexDigit (n % 16)]

/-- The quote that a text is shown in: a double quote only where that saves escapes. -/
def quoteFor (t : Text) : CodePoint :=
  if t.contains (.char '\'') && !t.contains (.char '"') then .char '"' else .char '\''

/-- One code point as it is written between the given quotes. -/
def quoteCodePoint (quote c : CodePoint) : Text :=
  if c = quote ∨ c = .char '\\' then [.char '\\', c]
  else if c = .char '\t' then text "\\t"
  else if c = .char '\n' then text "\\n"
  else if c = .char '\r' then text "\\r"
  else if c.isPrintable then [c]
  else if c.value < 0x100 then text "\\x" ++ hexDigits 2 c.value
  else if c.value < 0x10000 then text "\\u" ++ hexDigits 4 c.value
  else text "\\U" ++ hexDigits 8 c.value

/-- A text between quotes. -/
def quoted (t : Text) : Text :=
  let quote := quoteFor t
  quote :: (t.flatMap (quoteCodePoint quote) ++ [quote])

/-- One octet as it is written between the given quotes. -/
def quoteOctet (quote : CodePoint) (octet : UInt8) : Text :=
  let c := CodePoint.ofValue octet.toNat
  if octet.toNat < 0x80 then quoteCodePoint quote c
  else text "\\x" ++ hexDigits 2 octet.toNat

/-- Octets between quotes, after the letter that marks them as octets. -/
def quotedOctets (octets : List UInt8) : Text :=
  let quote := quoteFor (octets.map fun octet => .ofValue octet.toNat)
  .char 'b' :: quote :: (octets.flatMap (quoteOctet quote) ++ [quote])

end Text

end DiagnosticRelay
