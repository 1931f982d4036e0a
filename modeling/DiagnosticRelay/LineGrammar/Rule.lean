import DiagnosticRelay.Diagnostic
import DiagnosticRelay.LineGrammar.Frame
import DiagnosticRelay.Path.Reported
import DiagnosticRelay.Text.Newline

/-!
# Reading text output line by line

Three rules are tried on each line, in this order: a location with a column, a
location without one, a stack frame.  The first rule that fits decides, and a line
that fits none is passed over, as are code frames, carets and banners.  No line says
anything about another.

A rule that fits can still fail, namely when a run of digits is too long to be
converted; then the whole text fails with it.
-/

namespace DiagnosticRelay

/-- The rules of the line grammar. -/
inductive LineRule where
  | locationWithColumn
  | locationWithoutColumn
  | stackFrame
  deriving DecidableEq

namespace LineRule

open LineGrammar

/-- The rules in the order in which they are tried. -/
def all : List LineRule := [.locationWithColumn, .locationWithoutColumn, .stackFrame]

/-- The name of a rule. -/
def name : LineRule → Text
  | .locationWithColumn => text "location-with-column"
  | .locationWithoutColumn => text "location-without-column"
  | .stackFrame => text "stack-frame"

/-- The coordinate that a run of digits stands for. -/
def coordinate (digits : List Nat) : Except Fault Int :=
  match Decimal.readDigits digits with
  | .ok n => .ok n
  | .error count => .error (.tooManyDigits count)

/-- The diagnostic of a line that begins with a location. -/
def ofLocation (directory : Text) (location : Location) : Except Fault Diagnostic := do
  let row ← coordinate location.row
  let column ← match location.column with
    | some digits => coordinate digits
    | none => .ok 1
  return {
    file := Path.resolve .posix directory location.path
    message := Text.trim location.message
    severity := Severity.ofToken location.token
    range := some ⟨⟨row, column⟩, none⟩ }

/-- The diagnostic of a line that holds a stack frame. -/
def ofFrame (directory : Text) (frame : Frame) : Except Fault Diagnostic := do
  let row ← coordinate frame.row
  let column ← coordinate frame.column
  return {
    file := Path.resolve .posix directory frame.path
    message := Text.trim (frame.before ++ frame.after)
    severity := .note
    range := some ⟨⟨row, column⟩, none⟩ }

/-- The diagnostic that a rule finds in a line, for a checker that ran in a directory. -/
def apply (directory : Text) (rule : LineRule) (line : Text) : Except Fault (Option Diagnostic) :=
  match rule with
  | .locationWithColumn => match location? true line with
    | some location => (ofLocation directory location).map some
    | none => .ok none
  | .locationWithoutColumn => match location? false line with
    | some location => (ofLocation directory location).map some
    | none => .ok none
  | .stackFrame => match frame? line with
    | some frame => (ofFrame directory frame).map some
    | none => .ok none

/-- The first of some rules that fits a line, with the diagnostic that it finds. -/
def firstOf (directory line : Text) : List LineRule → Except Fault (Option (LineRule × Diagnostic))
  | [] => .ok none
  | rule :: rules => do
    match ← rule.apply directory line with
    | some diagnostic => return some (rule, diagnostic)
    | none => firstOf directory line rules

/-- The first rule that fits a line, with the diagnostic that it finds. -/
def first (directory line : Text) : Except Fault (Option (LineRule × Diagnostic)) :=
  firstOf directory line all

end LineRule

namespace TextReport

/-- The diagnostics of some lines, in order. -/
def ofLines (directory : Text) : List Text → Except Fault (List Diagnostic)
  | [] => .ok []
  | line :: lines => do
    let found ← LineRule.first directory line
    let others ← ofLines directory lines
    return (found.map (·.2)).toList ++ others

/-- The diagnostics that text output of a checker reports. -/
def diagnostics (directory output : Text) : Except Fault (List Diagnostic) :=
  ofLines directory (Text.splitLines output)

end TextReport

end DiagnosticRelay
