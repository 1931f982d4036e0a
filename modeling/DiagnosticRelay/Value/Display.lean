import DiagnosticRelay.Number.Shortest
import DiagnosticRelay.Text.Quoted
import DiagnosticRelay.Value.Written

/-!
# The text of a value

A message or a code that is not text is shown in a plain notation: `None`, `True`,
numbers in decimal, lists between square brackets and objects between braces.  Text
inside a list or an object is quoted; text by itself is shown as it is.
-/

namespace DiagnosticRelay

namespace Value

mutual

/-- A value as it is shown inside a list or an object. -/
def displayInside : Value → Text
  | .null => text "None"
  | .bool true => text "True"
  | .bool false => text "False"
  | .int z => Decimal.ofInt z
  | .float x => x.display
  | .str s => Text.quoted s
  | .list items => .char '[' :: (displayItems items ++ [.char ']'])
  | .object members => .char '\x7b' :: (displayMembers members ++ [.char '\x7d'])
  | .date shown => shown

/-- The items of a list with commas between them. -/
def displayItems : List Value → Text
  | [] => []
  | [item] => displayInside item
  | item :: next :: items => displayInside item ++ text ", " ++ displayItems (next :: items)

/-- The members of an object with commas between them. -/
def displayMembers : List (Text × Value) → Text
  | [] => []
  | [(key, value)] => Text.quoted key ++ text ": " ++ displayInside value
  | (key, value) :: next :: members =>
    Text.quoted key ++ text ": " ++ displayInside value ++ text ", "
      ++ displayMembers (next :: members)

end

/-- A value as it is shown by itself. -/
def display : Value → Except Fault Text
  | .str s => .ok s
  | value => value.written displayInside

@[simp] theorem display_str (s : Text) : (Value.str s).display = .ok s := rfl

end Value

end DiagnosticRelay
