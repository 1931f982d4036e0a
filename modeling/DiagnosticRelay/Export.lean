import DiagnosticRelay.Diagnostic
import DiagnosticRelay.Path.Lexical

/-!
# Diagnostics and other things as plain values

What is to be written as JSON is first turned into a plain value.  A record becomes an
object of its fields in their order, a path its text, octets their quoted form; a
table may have keys of any scalar kind, which become text, and of two keys with the same text
the later value counts.  A key that is an integer with too many digits has no text.
-/

namespace DiagnosticRelay

/-- An optional thing as a value. -/
def Value.ofOption {α : Type} (f : α → Value) : Option α → Value
  | some a => f a
  | none => .null

/-- A position as an object. -/
def Position.toValue (position : Position) : Value :=
  .object [(text "line", .int position.line), (text "column", .int position.column)]

/-- A range as an object. -/
def Range.toValue (range : Range) : Value :=
  .object [(text "start", range.start.toValue),
    (text "end", .ofOption Position.toValue range.stop)]

/-- A diagnostic as an object. -/
def Diagnostic.toValue (diagnostic : Diagnostic) : Value :=
  .object [
    (text "file", .str diagnostic.file),
    (text "message", .str diagnostic.message),
    (text "severity", .str diagnostic.severity.name),
    (text "code", .ofOption Code.value diagnostic.code),
    (text "range", .ofOption Range.toValue diagnostic.range)]

/-- A shown position as an object. -/
def HostPosition.toValue (position : HostPosition) : Value :=
  .object [(text "line", .int position.line), (text "character", .int position.character)]

/-- A shown range as an object. -/
def HostRange.toValue (range : HostRange) : Value :=
  .object [(text "start", range.start.toValue), (text "end", range.stop.toValue)]

/-- A shown diagnostic as an object. -/
def HostDiagnostic.toValue (diagnostic : HostDiagnostic) : Value :=
  .object [
    (text "range", diagnostic.range.toValue),
    (text "message", .str diagnostic.message),
    (text "severity", .str diagnostic.severity.name),
    (text "code", .ofOption .str diagnostic.code),
    (text "source", .ofOption .str diagnostic.source)]

/-- A thing that can be turned into a plain value. -/
inductive Exportable where
  | value (value : Value)
  | path (path : NamedPath)
  | octets (octets : List UInt8)
  | severity (severity : Severity)
  | diagnostic (diagnostic : Diagnostic)
  | hostDiagnostic (diagnostic : HostDiagnostic)
  | list (items : List Exportable)
  | table (rows : List (Exportable × Exportable))

namespace Exportable

/-- The integer that a value counts as when keys are compared. -/
def integral? : Value → Option Int
  | .bool b => some (if b then 1 else 0)
  | .int z => some z
  | .float x => x.toInt?
  | _ => none

/-- Whether two values are the same key.  Numbers and truth values are compared by value. -/
def sameValue (a b : Value) : Bool :=
  match integral? a, integral? b with
  | some m, some n => m == n
  | none, none => match a, b with
    | .null, .null => true
    | .float x, .float y => x == y
    | .str s, .str t => s == t
    | .date s, .date t => s == t
    | _, _ => false
  | _, _ => false

/-- Whether two things are the same key. -/
def sameKey : Exportable → Exportable → Bool
  | .value a, .value b => sameValue a b
  | .path p, .path q => p == q
  | .octets a, .octets b => a == b
  | .severity s, .severity t => s == t
  | _, _ => false

/-- Writes a row: over the thing at the same key if there is one, else at the end. -/
def putRow : List (Exportable × Exportable) → Exportable × Exportable →
    List (Exportable × Exportable)
  | [], row => [row]
  | (head, item) :: rows, row =>
    if sameKey head row.1 then (head, row.2) :: rows else (head, item) :: putRow rows row

/-- The table of some rows: of a key that is repeated the first spelling and the last thing
stay. -/
def ofRows (rows : List (Exportable × Exportable)) : Exportable := .table (rows.foldl putRow [])

/-- The text of a thing that serves as a key. -/
def key : Exportable → Except Fault Text
  | .value v => v.display
  | .path p => .ok p.toText
  | .octets content => .ok (Text.quotedOctets content)
  | .severity s => .ok s.name
  | _ => .ok []

mutual

/-- A thing as a plain value. -/
def toValue : Exportable → Except Fault Value
  | .value v => .ok v
  | .path p => .ok (.str p.toText)
  | .octets content => .ok (.str (Text.quotedOctets content))
  | .severity s => .ok (.str s.name)
  | .diagnostic d => .ok d.toValue
  | .hostDiagnostic d => .ok d.toValue
  | .list items => (itemValues items).map .list
  | .table rows => (rowMembers rows).map fun members => .object (Members.ofList members)

/-- The items of a list as plain values. -/
def itemValues : List Exportable → Except Fault (List Value)
  | [] => .ok []
  | item :: items => do return (← toValue item) :: (← itemValues items)

/-- The rows of a table as members. -/
def rowMembers : List (Exportable × Exportable) → Except Fault (List (Text × Value))
  | [] => .ok []
  | (head, item) :: rows => do return (← key head, ← toValue item) :: (← rowMembers rows)

end

end Exportable

end DiagnosticRelay
