import DiagnosticRelay.Fault

/-!
# Running a checker

A checker is anything that answers a launch (a program, its arguments and the
directory it runs in) with a captured invocation or a fault, and may remember what
it was asked before.  The rest of the library never looks inside one, so whatever is
said about a check holds for every checker.

A fault at the start of a program belongs to the outcome and is kept in the
invocation; the other faults are passed on.
-/

namespace DiagnosticRelay

/-- What is to be launched, and where. -/
structure Launch where
  program : Text
  arguments : List Text
  directory : Text
  deriving DecidableEq

/-- What was captured of one run of a program. -/
structure Invocation where
  stdout : Text := []
  stderr : Text := []
  exitStatus : Option Int := none
  startFault : Option Fault := none
  deriving DecidableEq

namespace Invocation

/-- Whether the program could be started. -/
def started (invocation : Invocation) : Bool := invocation.startFault.isNone

/-- The nonempty ones of the two outputs, with a line feed between them. -/
def combinedOutput (invocation : Invocation) : Text :=
  Text.join (text "\n") ([invocation.stdout, invocation.stderr].filter (!·.isEmpty))

/-- The invocation of a program that could not be started. -/
def ofStartFault (fault : Fault) : Invocation := { startFault := some fault }

@[simp] theorem started_ofStartFault (fault : Fault) : (ofStartFault fault).started = false := rfl

end Invocation

/-- A checker with a memory of type `σ`. -/
abbrev Checker (σ : Type) := Launch → σ → Except Fault Invocation × σ

namespace Checker

variable {σ : Type}

/-- A launch whose start faults are kept in the invocation. -/
def run (checker : Checker σ) (launch : Launch) (memory : σ) : Except Fault Invocation × σ :=
  match checker launch memory with
  | (.ok invocation, memory) => (.ok invocation, memory)
  | (.error fault, memory) =>
    if fault.isStartFailure then (.ok (.ofStartFault fault), memory) else (.error fault, memory)

/-- A checker that also remembers its launches, the latest one first. -/
def recording (checker : Checker σ) : Checker (σ × List Launch) := fun launch memory =>
  let (outcome, inner) := checker launch memory.1
  (outcome, inner, launch :: memory.2)

/-- A checker that answers from a list in order and repeats the last answer. -/
def scripted : Checker (List (Except Fault Invocation)) := fun _ answers =>
  match answers with
  | [] => (.ok {}, [])
  | [answer] => (answer, [answer])
  | answer :: more => (answer, more)

end Checker

end DiagnosticRelay
