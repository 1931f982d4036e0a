import DiagnosticRelay.Console
import DiagnosticRelay.Fault

/-!
# What a command leaves behind

A command prints and ends with a status.  A fault that the command does not absorb
ends it early, with status one and whatever was printed before.

Printing can itself fail: output is UTF-8, and a line with a surrogate half has no
octets.  Nothing of such a line is printed.
-/

namespace DiagnosticRelay

namespace CommandLine

/-- Everything a command printed, its status, and the fault that ended it, if any. -/
structure Outcome where
  output : Text := []
  status : Nat := 0
  fault : Option Fault := none
  deriving DecidableEq

/-- The fault of printing a text that holds surrogate halves. -/
def printFault? (t : Text) : Option Fault :=
  let before := t.takeWhile CodePoint.isScalar
  match t.drop before.length with
  | .surrogate half :: rest =>
    let more := (rest.takeWhile fun c => !c.isScalar).length
    some (.unprintable half before.length (more + 1))
  | _ => none

namespace Outcome

/-- Ends a command with a fault. -/
def raise (outcome : Outcome) (fault : Fault) : Outcome :=
  { outcome with status := 1, fault := some fault }

/-- Prints a text, unless the command has already ended with a fault. -/
def print (outcome : Outcome) (t : Text) : Outcome :=
  if outcome.fault.isSome then outcome
  else match printFault? t with
    | some fault => outcome.raise fault
    | none => { outcome with output := outcome.output ++ t }

/-- Prints a text that may have failed to be written; the failure ends the command. -/
def write (outcome : Outcome) : Except Fault Text → Outcome
  | .ok t => outcome.print t
  | .error fault => if outcome.fault.isSome then outcome else outcome.raise fault

/-- Ends a command with a status, unless it has already ended with a fault. -/
def exit (outcome : Outcome) (status : Nat) : Outcome :=
  if outcome.fault.isSome then outcome else { outcome with status := status }

end Outcome

end CommandLine

end DiagnosticRelay
