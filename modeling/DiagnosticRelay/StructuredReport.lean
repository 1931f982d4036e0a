import DiagnosticRelay.Diagnostic
import DiagnosticRelay.Json.Reader
import DiagnosticRelay.Json.Writer
import DiagnosticRelay.Path.Reported

/-!
# Reading structured output

A checker that speaks JSON reports a list of records, bare or under the key
`diagnostics` of an object.  A record counts if it is an object whose `file` is a
nonempty string; everything else in it is optional and tolerated in any form.  The
records do not know of each other: each gives its diagnostic by itself.

Output that is not JSON is a different matter than output without records, so reading
the text has three outcomes: not JSON, diagnostics (perhaps none), or a fault.
-/

namespace DiagnosticRelay

namespace StructuredReport

/-- The code of a record: numbers and text as they are, all else by its JSON text. -/
def codeOf : Value → Except Fault (Option Code)
  | .null => .ok none
  | .str s => .ok (some (.str s))
  | .int z => .ok (some (.int z))
  | .float x => .ok (some (.float x))
  | value => (Json.line (Json.sortKeys value)).map fun shown => some (.str shown)

/-- The message of a record: `message`, or `msg` where that is absent. -/
def messageOf (record : Members) : Except Fault Text :=
  let raw := match Members.get record (text "message") with
    | .null => Members.get record (text "msg")
    | value => value
  raw.toText?.map fun shown => shown.getD []

/-- The diagnostic of a record, if the record names a file. -/
def diagnosticOf (directory : Text) (record : Members) : Except Fault (Option Diagnostic) :=
  match Members.get record (text "file") with
  | .str [] => .ok none
  | .str reference => do
    let message ← messageOf record
    let severity ← Severity.ofValue (Members.get record (text "severity"))
    let code ← codeOf (Members.get record (text "code"))
    let range ← Range.ofRecord record
    return some {
      file := Path.resolve .posix directory reference
      message := message
      severity := severity
      code := code
      range := range }
  | _ => .ok none

/-- The records of a document. -/
def records : Value → List Members
  | .list items => (Value.list items).objects
  | .object members => (Members.get members (text "diagnostics")).objects
  | _ => []

/-- The diagnostics of some records, in order. -/
def ofRecords (directory : Text) : List Members → Except Fault (List Diagnostic)
  | [] => .ok []
  | record :: rest => do
    let found ← diagnosticOf directory record
    let others ← ofRecords directory rest
    return found.toList ++ others

/-- The diagnostics of a document. -/
def ofValue (directory : Text) (document : Value) : Except Fault (List Diagnostic) :=
  ofRecords directory (records document)

/-- The value of tool output that is JSON; digits beyond the limit are a fault of their own. -/
def decode? (output : Text) : Except Fault (Option Value) :=
  match Json.read output with
  | .ok value => .ok (some value)
  | .error (.tooManyDigits digits) => .error (.tooManyDigits digits)
  | .error _ => .ok none

/-- The diagnostics that structured output reports, if the output is JSON. -/
def diagnostics? (directory output : Text) : Except Fault (Option (List Diagnostic)) := do
  match ← decode? output with
  | some document => return some (← ofValue directory document)
  | none => return none

/-- Whether text looks like a JSON array or object. -/
def isLikely (output : Text) : Bool :=
  match output.dropWhile CodePoint.isBlank with
  | .char '\x7b' :: _ => true
  | .char '[' :: _ => true
  | _ => false

end StructuredReport

end DiagnosticRelay
