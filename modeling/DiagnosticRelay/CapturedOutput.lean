import DiagnosticRelay.LineGrammar.Rule
import DiagnosticRelay.StructuredReport

/-!
# Reading output that was captured earlier

Captured output is read like the output of a live run: as JSON if it looks like JSON
and is JSON, else as text.  Either reader can also be demanded, and output that is not JSON
is then refused where JSON was demanded.
-/

namespace DiagnosticRelay

/-- How captured output is to be read. -/
inductive InputFormat where
  | auto
  | json
  | text
  deriving DecidableEq

namespace InputFormat

/-- The format with a name. -/
def ofName? (name : Text) : Option InputFormat :=
  if name = DiagnosticRelay.text "auto" then some .auto
  else if name = DiagnosticRelay.text "json" then some .json
  else if name = DiagnosticRelay.text "text" then some .text
  else none

end InputFormat

namespace CapturedOutput

/-- Why captured output gives no diagnostics. -/
inductive Refusal where
  | notJson
  | fault (fault : Fault)
  deriving DecidableEq

/-- The wording for output that is not JSON. -/
def notJsonMessage : Text := text "input is not valid JSON"

/-- The diagnostics of output that is read as text. -/
def readText (directory output : Text) : Except Refusal (List Diagnostic) :=
  (TextReport.diagnostics directory output).mapError .fault

/-- The diagnostics of captured output. -/
def diagnostics (directory : Text) (format : InputFormat) (output : Text) :
    Except Refusal (List Diagnostic) :=
  if format = .text then readText directory output
  else if format = .json || StructuredReport.isLikely output then
    match StructuredReport.diagnostics? directory output with
    | .error fault => .error (.fault fault)
    | .ok (some found) => .ok found
    | .ok none => if format = .json then .error .notJson else readText directory output
  else readText directory output

end CapturedOutput

end DiagnosticRelay
