import DiagnosticRelay.CapturedOutput
import DiagnosticRelay.Proofs.Negotiation.Failure

/-!
# Live and captured output agree

Output can be read in two ways: as it comes from a checker, where a negotiation decides about the
reader and may run the checker a second time, or later, from a capture.  The rule that prefers JSON
is written down twice for this, and the two must not drift apart.  `negotiate_of_prints` says that
they have not: a checker that prints one text whatever it is asked gives what the capture of that
text gives, the same diagnostics or the same fault.

The negotiation asks two questions of its own.  Whether the checker was started has one answer here.
Whether it is run a second time depends on the caller's arguments, and does not matter, because both
runs print the same and nothing is added to it when the two outputs are put together
(`combinedOutput_of_stderr_nil`).
-/

namespace DiagnosticRelay

variable {σ : Type}

namespace Invocation

/-- Where nothing was printed on the second output, the first is all there is. -/
theorem combinedOutput_of_stderr_nil {invocation : Invocation} (h : invocation.stderr = []) :
    invocation.combinedOutput = invocation.stdout := by
  obtain ⟨stdout, stderr, exitStatus, startFault⟩ := invocation
  subst h
  cases stdout <;> rfl

end Invocation

/-- The checker starts whenever it is asked, and prints this text and nothing besides; it may end
with any status and remember anything. -/
def Checker.Prints (checker : Checker σ) (output : Text) : Prop :=
  ∀ launch memory, ∃ exitStatus later,
    checker launch memory = (.ok { stdout := output, exitStatus := exitStatus }, later)

theorem Checker.Prints.exists_run_eq_ok {checker : Checker σ} {output : Text}
    (h : checker.Prints output) (launch : Launch) (memory : σ) :
    ∃ invocation later, checker.run launch memory = (.ok invocation, later) ∧
      invocation.started = true ∧ invocation.stdout = output ∧
      invocation.combinedOutput = output := by
  obtain ⟨exitStatus, later, hanswer⟩ := h launch memory
  refine ⟨{ stdout := output, exitStatus := exitStatus }, later, ?_, rfl, rfl,
    Invocation.combinedOutput_of_stderr_nil rfl⟩
  rw [run, hanswer]

namespace CapturedOutput

/-- A capture is read like a live run: as JSON first, and as text if that gives nothing. -/
theorem diagnostics_auto (directory output : Text) :
    diagnostics directory .auto output
      = match (if StructuredReport.isLikely output then
          StructuredReport.diagnostics? directory output else .ok none) with
        | .error fault => .error (.fault fault)
        | .ok (some found) => .ok found
        | .ok none => readText directory output := by
  rw [diagnostics, if_neg (by decide)]
  by_cases hlikely : StructuredReport.isLikely output = true
  · rw [if_pos hlikely, if_pos (by rw [hlikely, Bool.or_true])]
    rfl
  · rw [if_neg hlikely, if_neg (by simpa using hlikely)]

end CapturedOutput

namespace Negotiation

/-- **Live and captured output agree.**  A checker that prints one text on every run gives the
diagnostics that the capture of this text gives, or stops with the fault that the capture stops
with, whatever its arguments are. -/
theorem negotiate_of_prints (home : Text) (checker : Checker σ) (launch : Launch) (memory : σ)
    (output : Text) (h : checker.Prints output) :
    (((negotiate home checker launch memory).1.map Outcome.diagnostics).mapError
        CapturedOutput.Refusal.fault)
      = CapturedOutput.diagnostics (Path.Posix.join home launch.directory) .auto output := by
  obtain ⟨first, later, hfirst, hstarted, hstdout, hcombined⟩ :=
    h.exists_run_eq_ok (structuredLaunch launch) memory
  obtain ⟨second, last, hsecond, -, -, hagain⟩ := h.exists_run_eq_ok launch later
  rw [fst_negotiate hfirst hsecond, CapturedOutput.diagnostics_auto, structured?, hstarted, hstdout,
    Bool.true_and]
  rcases (if StructuredReport.isLikely output = true then
    StructuredReport.diagnostics? (Path.Posix.join home launch.directory) output
    else .ok none) with fault | (_ | found)
  · rfl
  · -- whichever of the two runs is read, its text is the one that was printed
    have hread (invocations : List Invocation) {invocation : Invocation}
        (htext : invocation.combinedOutput = output) :
        (((readText (Path.Posix.join home launch.directory) invocations invocation).map
            Outcome.diagnostics).mapError CapturedOutput.Refusal.fault)
          = CapturedOutput.readText (Path.Posix.join home launch.directory) output := by
      rw [readText, htext, CapturedOutput.readText]
      cases TextReport.diagnostics (Path.Posix.join home launch.directory) output <;> rfl
    show (Except.mapError _ (Except.map _ (ite _ _ _))) = _
    split
    · exact hread _ hagain
    · exact hread _ hcombined
  · rfl

/-- A checker that counts its runs and prints what opens like JSON and is none: it is run twice, and
the line in its text is found. -/
theorem negotiate_of_prints_twice :
    let output := text "[oops\na.c:1:2: error: x"
    let checker : Checker Nat := fun _ runs =>
      (.ok { stdout := output, exitStatus := some runs }, runs + 1)
    let launch : Launch := ⟨text "vitc", [text "check"], text "/p"⟩
    checker.Prints output ∧ (negotiate (text "/") checker launch 0).2 = 2 ∧
      (((negotiate (text "/") checker launch 0).1.map Outcome.diagnostics).mapError
          CapturedOutput.Refusal.fault)
        = .ok [⟨text "/p/a.c", text "x", .error, none, some ⟨⟨1, 2⟩, none⟩⟩] := by
  intro output checker launch
  have hprints : checker.Prints output := fun launch runs => ⟨some runs, runs + 1, rfl⟩
  refine ⟨hprints, by decide +kernel, ?_⟩
  rw [negotiate_of_prints (text "/") checker launch 0 output hprints]
  decide +kernel

end Negotiation

end DiagnosticRelay
