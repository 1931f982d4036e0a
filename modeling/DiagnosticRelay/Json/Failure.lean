import DiagnosticRelay.Fault

/-!
# Why a JSON document is refused

Most refusals are tied to a place in the document and name what was expected there.
The reader counts from the end, because what it holds is the rest of the document;
`Failure.message` turns such a count into a line, a column and an offset.

Three refusals have no place: a literal for a number that is not finite, nesting
beyond the supported depth, and an integer with more digits than the library
converts.  The last one is not a defect of the document's grammar, and it is the
only one that is not folded into "not JSON".
-/

namespace DiagnosticRelay

namespace Json

/-- What is wrong at a place of a document. -/
inductive Problem where
  | expectedValue
  | extraData
  | expectedComma
  | expectedColon
  | expectedKey
  | unterminatedString
  | controlCharacter
  | badEscape
  | badUnicodeEscape
  | byteOrderMark
  deriving DecidableEq

/-- A problem in words. -/
def Problem.description : Problem → Text
  | .expectedValue => text "Expecting value"
  | .extraData => text "Extra data"
  | .expectedComma => text "Expecting ',' delimiter"
  | .expectedColon => text "Expecting ':' delimiter"
  | .expectedKey => text "Expecting property name enclosed in double quotes"
  | .unterminatedString => text "Unterminated string starting at"
  | .controlCharacter => text "Invalid control character at"
  | .badEscape => text "Invalid \\escape"
  | .badUnicodeEscape => text "Invalid \\uXXXX escape"
  | .byteOrderMark => text "Unexpected UTF-8 BOM (decode using utf-8-sig)"

/-- The two kinds of container. -/
inductive Container where
  | array
  | object
  deriving DecidableEq

/-- Why a document is refused; a place is the number of code points from there to the end. -/
inductive Failure where
  | misplaced (problem : Problem) (remaining : Nat)
  | nonFinite (name : Text)
  | tooDeep (container : Container)
  | tooManyDigits (digits : Nat)
  deriving DecidableEq

/-- The line, column and offset of a place in a document. -/
def place (document : Text) (remaining : Nat) : Text :=
  let offset := document.length - remaining
  let before := document.take offset
  let line := before.count (.char '\n') + 1
  let column := (before.reverse.takeWhile (· != .char '\n')).length + 1
  text ": line " ++ Decimal.ofNat line ++ text " column " ++ Decimal.ofNat column
    ++ text " (char " ++ Decimal.ofNat offset ++ text ")"

/-- The refusal of a document in words. -/
def Failure.message (document : Text) : Failure → Text
  | .misplaced problem remaining =>
    text "tool output is not valid JSON: " ++ problem.description ++ place document remaining
  | .nonFinite name => text "tool output is not valid JSON: unexpected " ++ name
  | .tooDeep container =>
    text "tool output is not valid JSON: maximum recursion depth exceeded while decoding a JSON "
      ++ text (match container with | .array => "array" | .object => "object")
      ++ text " from a unicode string"
  | .tooManyDigits digits => (Fault.tooManyDigits digits).message

end Json

end DiagnosticRelay
