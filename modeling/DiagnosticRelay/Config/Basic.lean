import DiagnosticRelay.ProjectRoot
import DiagnosticRelay.Text.Blank
import DiagnosticRelay.Validation.Scalar

/-!
# The configuration of a check

A configuration says which checker is run with which arguments, for how long, under
which label, and what marks a project.  It is read from an object whose members may
be loosely typed; unlike a diagnostic, it admits no members that it does not know.

The binary is kept without the blanks around it and may not be empty.  A timeout may not be
below zero.
-/

namespace DiagnosticRelay

/-- How the checker is run and labelled. -/
structure CheckConfig where
  binary : Text
  arguments : List Text
  enabled : Bool
  timeout : Option Binary64
  markers : List Text
  source : Option Text

namespace CheckConfig

/-- The seconds after which a checker is stopped unless told otherwise. -/
def defaultTimeout : Binary64 := Binary64.ofInt 30

/-- The configuration that holds where nothing is set. -/
def default : CheckConfig where
  binary := text "vitc"
  arguments := [text "check"]
  enabled := true
  timeout := some defaultTimeout
  markers := ProjectRoot.defaultMarkers
  source := none

/-- The keys of a configuration, in order. -/
def keys : List Text :=
  [text "binary", text "check_args", text "enable_diagnostics", text "timeout",
    text "project_markers", text "source"]

/-- The name of a program, without the blanks around it. -/
def binaryOf (value : Value) : Validated Text :=
  ((Validated.string value).map Text.trim).require fun name =>
    if name.isEmpty then some .emptyBinary else none

/-- A time limit, or none. -/
def timeoutOf (value : Value) : Validated (Option Binary64) :=
  (Validated.nullable Validated.number value).require fun limit =>
    if limit.any Binary64.isBelowZero then some .negativeTimeout else none

/-- A list of texts. -/
def textsOf (value : Value) : Validated (List Text) := Validated.listOf Validated.string value

/-- Complaints about the members that belong to no key. -/
def unknownMembers (members : Members) : Validated Unit :=
  match members.filter fun member => !keys.contains member.1 with
  | [] => .valid ()
  | unknown => .invalid (unknown.map fun member => ⟨[member.1], .extraForbidden⟩)

/-- The complaint about a key that holds a surrogate half: no further complaint stands beside it. -/
def malformedKey? (members : Members) : Option Misfit :=
  if members.all fun member => member.1.all CodePoint.isScalar then none else some .stringUnicode

/-- The configuration that an object describes. -/
def ofMembers (members : Members) : Validated CheckConfig :=
  if let some kind := malformedKey? members then Validated.misfit kind else
  (fun config (_ : Unit) => config) <$>
    (CheckConfig.mk <$> Validated.optional members (text "binary") default.binary binaryOf
      <*> Validated.optional members (text "check_args") default.arguments textsOf
      <*> Validated.optional members (text "enable_diagnostics") default.enabled Validated.truth
      <*> Validated.optional members (text "timeout") default.timeout timeoutOf
      <*> Validated.optional members (text "project_markers") default.markers textsOf
      <*> Validated.optional members (text "source") default.source
        (Validated.nullable Validated.string))
    <*> unknownMembers members

/-- The configuration that a value describes. -/
def ofValue : Value → Validated CheckConfig := Validated.record ofMembers

/-- Gives one field of a configuration a new value. -/
def assign (config : CheckConfig) (field : Text) (value : Value) : Validated CheckConfig :=
  Validated.assigned config field <|
    if field = text "binary" then
      (binaryOf value).map fun binary => { config with binary := binary }
    else if field = text "check_args" then
      (textsOf value).map fun arguments => { config with arguments := arguments }
    else if field = text "enable_diagnostics" then
      (Validated.truth value).map fun enabled => { config with enabled := enabled }
    else if field = text "timeout" then
      (timeoutOf value).map fun timeout => { config with timeout := timeout }
    else if field = text "project_markers" then
      (textsOf value).map fun markers => { config with markers := markers }
    else if field = text "source" then
      (Validated.nullable Validated.string value).map fun source => { config with source := source }
    else Validated.misfit .noSuchAttribute

/-- A configuration as an object, in the order of its keys. -/
def toMembers (config : CheckConfig) : Members := [
  (text "binary", .str config.binary),
  (text "check_args", .list (config.arguments.map .str)),
  (text "enable_diagnostics", .bool config.enabled),
  (text "timeout", match config.timeout with | some x => .float x | none => .null),
  (text "project_markers", .list (config.markers.map .str)),
  (text "source", match config.source with | some s => .str s | none => .null)]

end CheckConfig

end DiagnosticRelay
