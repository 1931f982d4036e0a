import DiagnosticRelay.Diagnostic
import DiagnosticRelay.Validation.Scalar

/-!
# Validation of diagnostics

Diagnostics and their parts can be given as loosely typed objects.  Each field is
validated on its own and members that belong to no field are passed over.

A code is text, an integer or a number; a code that is none of them is complained
about three times, once for each.  The level of a `Diagnostic` is taken from any
token, the level of a `HostDiagnostic` must be one of the four names.
-/

namespace DiagnosticRelay

namespace Validated

/-- A position counted from one. -/
def position : Value → Validated Position :=
  record fun members =>
    Position.mk <$> required members (text "line") integer
      <*> required members (text "column") integer

/-- A range counted from one. -/
def range : Value → Validated Range :=
  record fun members =>
    Range.mk <$> required members (text "start") position
      <*> optional members (text "end") none (nullable position)

/-- A position counted from zero. -/
def hostPosition : Value → Validated HostPosition :=
  record fun members =>
    HostPosition.mk <$> required members (text "line") integer
      <*> required members (text "character") integer

/-- A range counted from zero. -/
def hostRange : Value → Validated HostRange :=
  record fun members =>
    HostRange.mk <$> required members (text "start") hostPosition
      <*> required members (text "end") hostPosition

/-- A code. -/
def code : Value → Validated Code
  | .str s => .valid (.str s)
  | .int z => .valid (.int z)
  | .float x => .valid (.float x)
  | .bool b => .valid (.int (if b then 1 else 0))
  | _ => .invalid [⟨[text "str"], .stringType⟩, ⟨[text "int"], .intType⟩,
      ⟨[text "float"], .floatType⟩]

/-- The level that a token stands for. -/
def level (value : Value) : Validated Severity :=
  match Severity.ofValue value with
  | .ok severity => .valid severity
  | .error fault => misfit (.refused fault)

/-- The level with a name. -/
def levelName : Value → Validated Severity
  | .str s => wellFormed s <| match Severity.ofName? s with
    | some severity => .valid severity
    | none => misfit .enumeration
  | _ => misfit .enumeration

/-- A diagnostic. -/
def diagnostic : Value → Validated Diagnostic :=
  record fun members =>
    Diagnostic.mk <$> required members (text "file") string
      <*> optional members (text "message") [] string
      <*> optional members (text "severity") .info level
      <*> optional members (text "code") none (nullable code)
      <*> optional members (text "range") none (nullable range)

/-- A shown diagnostic. -/
def hostDiagnostic : Value → Validated HostDiagnostic :=
  record fun members =>
    HostDiagnostic.mk <$> required members (text "range") hostRange
      <*> required members (text "message") string
      <*> required members (text "severity") levelName
      <*> optional members (text "code") none (nullable string)
      <*> optional members (text "source") none (nullable string)

end Validated

namespace Diagnostic

/-- Gives one field of a diagnostic a new value. -/
def assign (diagnostic : Diagnostic) (field : Text) (value : Value) : Validated Diagnostic :=
  Validated.assigned diagnostic field <|
    if field = text "file" then
      (Validated.string value).map fun file => { diagnostic with file := file }
    else if field = text "message" then
      (Validated.string value).map fun message => { diagnostic with message := message }
    else if field = text "severity" then
      (Validated.level value).map fun severity => { diagnostic with severity := severity }
    else if field = text "code" then
      (Validated.nullable Validated.code value).map fun code => { diagnostic with code := code }
    else if field = text "range" then
      (Validated.nullable Validated.range value).map fun range => { diagnostic with range := range }
    else Validated.misfit .noSuchAttribute

end Diagnostic

end DiagnosticRelay
