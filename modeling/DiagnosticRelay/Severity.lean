import DiagnosticRelay.Text.Casing
import DiagnosticRelay.Value.Display

/-!
# Severity

Checkers name severities in many ways; four levels are known here, and every token
is folded onto one of them.  A token is compared without regard to the case of its
letters, and whatever is not one of the four names is informational.

Each level has a number in the protocol between editors and language servers, where
a note is shown as a hint, and a colour on a terminal.
-/

namespace DiagnosticRelay

/-- The four levels of a diagnostic. -/
inductive Severity where
  | error
  | warning
  | note
  | info
  deriving DecidableEq, Inhabited

namespace Severity

/-- All levels, in the order in which the line grammar tries their names. -/
def all : List Severity := [.error, .warning, .note, .info]

/-- The name of a level. -/
def name : Severity → Text
  | .error => text "error"
  | .warning => text "warning"
  | .note => text "note"
  | .info => text "info"

/-- The level with exactly this name. -/
def ofName? (t : Text) : Option Severity := all.find? fun severity => severity.name == t

/-- The level of a token, whatever the case of its letters; unknown tokens are informational. -/
def ofToken (t : Text) : Severity := (ofName? (Text.lower t)).getD .info

/-- The level of a loosely typed value, by the text that it is shown as. -/
def ofValue : Value → Except Fault Severity
  | .null => .ok .info
  | value => value.display.map ofToken

@[simp] theorem ofValue_null : ofValue .null = .ok .info := rfl

/-- The number of a level in the language server protocol. -/
def protocolLevel : Severity → Nat
  | .error => 1
  | .warning => 2
  | .info => 3
  | .note => 4

/-- The colour of a level on a terminal. -/
def colour : Severity → Text
  | .error => text "red"
  | .warning => text "yellow"
  | .note => text "cyan"
  | .info => text "blue"

end Severity

end DiagnosticRelay
