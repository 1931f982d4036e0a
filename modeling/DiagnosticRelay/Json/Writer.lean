import DiagnosticRelay.Number.Shortest
import DiagnosticRelay.Text.Quoted
import DiagnosticRelay.Value.Written

/-!
# Writing JSON

Documents are written in ASCII.  Quote, backslash and the five controls that have a
letter are escaped by it; every other code point outside the printable ASCII range is
written by its UTF-16 units in four hexadecimal digits each.

A document is written on one line, with a blank after each comma and colon, or spread
over lines with two blanks for each level of nesting; empty containers stay on one
line in both.  `line` and `document` write a value in these two ways, and fail on an integer
that is too long.
-/

namespace DiagnosticRelay

namespace Json

/-- One UTF-16 unit as an escape. -/
def unitEscape (unit : Nat) : Text := text "\\u" ++ Text.hexDigits 4 unit

/-- One code point inside a string. -/
def escape (c : CodePoint) : Text :=
  if c = .char '"' then text "\\\""
  else if c = .char '\\' then text "\\\\"
  else if c = .char '\n' then text "\\n"
  else if c = .char '\r' then text "\\r"
  else if c = .char '\t' then text "\\t"
  else if c = .char '\x0c' then text "\\f"
  else if c = .char '\x08' then text "\\b"
  else
    let n := c.value
    if 0x20 ≤ n ∧ n < 0x7F then [c]
    else if n < 0x10000 then unitEscape n
    else
      unitEscape (0xD800 + (n - 0x10000) / 0x400) ++ unitEscape (0xDC00 + (n - 0x10000) % 0x400)

/-- A string between its quotes. -/
def writeString (s : Text) : Text := .char '"' :: (s.flatMap escape ++ [.char '"'])

/-- A floating-point number; the numbers that are not finite are written by their literals. -/
def writeFloat : Binary64 → Text
  | .nan => text "NaN"
  | .infinite negative => text (if negative then "-Infinity" else "Infinity")
  | x => x.display

mutual

/-- A value on one line. -/
def writeLine : Value → Text
  | .null => text "null"
  | .bool true => text "true"
  | .bool false => text "false"
  | .int z => Decimal.ofInt z
  | .float x => writeFloat x
  | .str s => writeString s
  | .date shown => writeString shown
  | .list items => .char '[' :: (writeLineItems items ++ [.char ']'])
  | .object members => .char '\x7b' :: (writeLineMembers members ++ [.char '\x7d'])

/-- The items of a list on one line. -/
def writeLineItems : List Value → Text
  | [] => []
  | [item] => writeLine item
  | item :: next :: items => writeLine item ++ text ", " ++ writeLineItems (next :: items)

/-- The members of an object on one line. -/
def writeLineMembers : List (Text × Value) → Text
  | [] => []
  | [(key, value)] => writeString key ++ text ": " ++ writeLine value
  | (key, value) :: next :: members =>
    writeString key ++ text ": " ++ writeLine value ++ text ", "
      ++ writeLineMembers (next :: members)

end

/-- A line feed and the blanks of a level of nesting. -/
def breakAt (level : Nat) : Text := .char '\n' :: List.replicate (2 * level) (.char ' ')

mutual

/-- A value spread over lines, at a level of nesting. -/
def writeDocument (level : Nat) : Value → Text
  | .list [] => text "[]"
  | .list (item :: items) =>
    .char '[' :: (breakAt (level + 1) ++ writeDocumentItems (level + 1) (item :: items)
      ++ breakAt level ++ [.char ']'])
  | .object [] => [.char '\x7b', .char '\x7d']
  | .object (member :: members) =>
    .char '\x7b' :: (breakAt (level + 1) ++ writeDocumentMembers (level + 1) (member :: members)
      ++ breakAt level ++ [.char '\x7d'])
  | .null => text "null"
  | .bool true => text "true"
  | .bool false => text "false"
  | .int z => Decimal.ofInt z
  | .float x => writeFloat x
  | .str s => writeString s
  | .date shown => writeString shown

/-- The items of a list, one on each line. -/
def writeDocumentItems (level : Nat) : List Value → Text
  | [] => []
  | [item] => writeDocument level item
  | item :: next :: items =>
    writeDocument level item ++ .char ',' :: (breakAt level
      ++ writeDocumentItems level (next :: items))

/-- The members of an object, one on each line. -/
def writeDocumentMembers (level : Nat) : List (Text × Value) → Text
  | [] => []
  | [(key, value)] => writeString key ++ text ": " ++ writeDocument level value
  | (key, value) :: next :: members =>
    writeString key ++ text ": " ++ writeDocument level value ++ .char ',' :: (breakAt level
      ++ writeDocumentMembers level (next :: members))

end

/-- The document of a value on one line. -/
def line (value : Value) : Except Fault Text := value.written writeLine

/-- The document of a value, spread over lines. -/
def document (value : Value) : Except Fault Text := value.written (writeDocument 0)

mutual

/-- A value with the members of every object in the order of their keys. -/
def sortKeys : Value → Value
  | .list items => .list (sortKeysItems items)
  | .object members =>
    .object ((sortKeysMembers members).mergeSort fun a b => Text.le a.1 b.1)
  | value => value

/-- The items of a list, each sorted. -/
def sortKeysItems : List Value → List Value
  | [] => []
  | item :: items => sortKeys item :: sortKeysItems items

/-- The members of an object, each value sorted. -/
def sortKeysMembers : List (Text × Value) → List (Text × Value)
  | [] => []
  | (key, value) :: members => (key, sortKeys value) :: sortKeysMembers members

end

end Json

end DiagnosticRelay
