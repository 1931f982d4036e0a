import DiagnosticRelay.Proofs.Json.Reading
import DiagnosticRelay.Proofs.LineGrammar.Overlong
import DiagnosticRelay.Proofs.Negotiation.Protocol

/-!
# When a negotiation fails

A negotiation is meant to end whatever the checker prints.  It does so for every output but one
kind: a number of more than `Decimal.digitLimit` digits at a place where a number is converted.
There are three such places, and no others.

* An integer of a JSON document.  The whole document is then neither decoded nor refused
  as something that is not JSON, and its text is not read as a fallback either.
* A coordinate of a record that names a file, written as a string.
* A line and column that the first rule which fits a line takes out of it.

`negotiate_fails_iff` puts the three together with the protocol: the first two stop a negotiation
whose first output opens a container, the third one whose output is read as text, and then it is
the output of the last run that counts.  The checker is free to answer anything and to fail to
start in any way; only faults that are not failures to start are excluded, because those are passed
on by design.
-/

namespace DiagnosticRelay

namespace Checker

variable {σ : Type}

/-- A checker whose faults are all failures to start. -/
def OnlyFailsToStart (checker : Checker σ) : Prop :=
  ∀ launch memory fault, (checker launch memory).1 = .error fault → fault.isStartFailure = true

/-- Such a checker always gives an invocation. -/
theorem exists_run_eq_ok {checker : Checker σ} (h : checker.OnlyFailsToStart) (launch : Launch)
    (memory : σ) : ∃ invocation later, checker.run launch memory = (.ok invocation, later) := by
  have hstart := h launch memory
  rw [run]
  rcases hanswer : checker launch memory with ⟨fault | invocation, later⟩
  · exact ⟨_, later, if_pos (hstart fault (by rw [hanswer]))⟩
  · exact ⟨invocation, later, rfl⟩

end Checker

namespace Negotiation

variable {σ : Type}

/-- An invocation whose text has a line with too many digits. -/
def IsOverlongText (invocation : Invocation) : Prop :=
  ∃ line ∈ Text.splitLines invocation.combinedOutput, TextReport.IsOverlongLine line

theorem structured?_overflows (directory : Text) (invocation : Invocation) :
    OverflowsWhen (structured? directory invocation)
      (invocation.started = true ∧ OpensContainer invocation.stdout ∧
        StructuredReport.IsOverlongReport invocation.stdout) := by
  rw [structured?]
  by_cases hlikely : (invocation.started
      && StructuredReport.isLikely invocation.stdout) = true
  · rw [if_pos hlikely]
    rw [Bool.and_eq_true, isLikely_iff] at hlikely
    exact (StructuredReport.diagnostics?_overflows directory invocation.stdout).congr
      ⟨fun h => ⟨hlikely.1, hlikely.2, h⟩, fun h => h.2.2⟩
  · rw [if_neg hlikely]
    rw [Bool.and_eq_true, isLikely_iff] at hlikely
    exact (OverflowsWhen.ok none).congr
      (iff_of_false id fun h => hlikely ⟨h.1, h.2.1⟩)

theorem readText_overflows (directory : Text) (invocations : List Invocation)
    (last : Invocation) :
    OverflowsWhen (readText directory invocations last) (IsOverlongText last) := by
  refine ((TextReport.diagnostics_overflows directory last.combinedOutput).bind_const fun found =>
    OverflowsWhen.ok _).congr ?_
  rw [or_false]
  rfl

/-- A negotiation in which both runs give an invocation is a sequence of two readings. -/
theorem fst_negotiate {home : Text} {checker : Checker σ} {launch : Launch}
    {memory later last : σ} {first second : Invocation}
    (hfirst : checker.run (structuredLaunch launch) memory = (.ok first, later))
    (hsecond : checker.run launch later = (.ok second, last)) :
    (negotiate home checker launch memory).1
      = structured? (Path.Posix.join home launch.directory) first >>= fun found =>
        match found with
        | some diagnostics => .ok ⟨diagnostics, .json, [first]⟩
        | none =>
          if first.started && !hasFormatFlag launch.arguments then
            readText (Path.Posix.join home launch.directory) [first, second] second
          else readText (Path.Posix.join home launch.directory) [first] first := by
  rw [structuredLaunch] at hfirst
  rw [negotiate]
  simp only [hfirst, hsecond]
  rcases structured? (Path.Posix.join home launch.directory) first with fault | (_ | found)
  · rfl
  · show Prod.fst (ite _ _ _) = ite _ _ _
    split <;> rfl
  · rfl

/-- The run that is read when there is no structured output has an overlong text: that is the second
run if there is one, and else the first. -/
def IsOverlongFallback (launch : Launch) (first second : Invocation) : Prop :=
  (first.started = true ∧ (¬ ∃ argument ∈ launch.arguments, ChoosesFormat argument) ∧
      IsOverlongText second) ∨
    (¬(first.started = true ∧ ¬ ∃ argument ∈ launch.arguments, ChoosesFormat argument) ∧
      IsOverlongText first)

theorem fallback_overflows (directory : Text) (launch : Launch) (first second : Invocation) :
    OverflowsWhen
      (if first.started && !hasFormatFlag launch.arguments then
        readText directory [first, second] second
      else readText directory [first] first)
      (IsOverlongFallback launch first second) := by
  rw [IsOverlongFallback, ← hasFormatFlag_iff]
  by_cases hagain : first.started = true ∧ ¬ hasFormatFlag launch.arguments = true
  · rw [if_pos (by simpa using hagain)]
    refine (readText_overflows directory _ second).congr ⟨fun h => ?_, ?_⟩
    · exact Or.inl ⟨hagain.1, hagain.2, h⟩
    · rintro (h | h)
      · exact h.2.2
      · exact absurd hagain h.1
  · rw [if_neg (by simpa using hagain)]
    refine (readText_overflows directory _ first).congr ⟨fun h => Or.inr ⟨hagain, h⟩, ?_⟩
    rintro (h | h)
    · exact absurd ⟨h.1, h.2.1⟩ hagain
    · exact h.2

/-- The two readings together.  The text is read only after an attempt at structured output that
does not fail, but where it does fail the negotiation has failed already. -/
theorem negotiate_overflows (home : Text) {checker : Checker σ} {launch : Launch}
    {memory later last : σ} {first second : Invocation}
    (hfirst : checker.run (structuredLaunch launch) memory = (.ok first, later))
    (hsecond : checker.run launch later = (.ok second, last)) :
    OverflowsWhen (negotiate home checker launch memory).1
      ((first.started = true ∧ OpensContainer first.stdout ∧
          StructuredReport.IsOverlongReport first.stdout) ∨
        (¬(first.started = true ∧ IsJsonOutput first.stdout) ∧
          IsOverlongFallback launch first second)) := by
  have hstructured := structured?_overflows (Path.Posix.join home launch.directory) first
  rw [fst_negotiate hfirst hsecond]
  refine (hstructured.bind
    (r := fun found => found = none ∧ IsOverlongFallback launch first second) ?_).congr ?_
  · intro found _
    cases found with
    | some diagnostics => exact (OverflowsWhen.ok _).congr (by simp)
    | none => exact (fallback_overflows _ launch first second).congr (by simp)
  · constructor
    · rintro (hreport | ⟨_, hfound, rfl, htext⟩)
      · exact Or.inl hreport
      · exact Or.inr ⟨structured?_eq_none hfound, htext⟩
    · rintro (hreport | ⟨hjson, htext⟩)
      · exact Or.inl hreport
      · rcases hstructured with ⟨⟨found, hfound⟩, -⟩ | ⟨-, hreport⟩
        · refine Or.inr ⟨found, hfound, ?_, htext⟩
          cases found with
          | none => rfl
          | some diagnostics =>
            have hsome := structured?_eq_some hfound
            exact absurd ⟨hsome.1, hsome.2.1⟩ hjson
        · exact Or.inl hreport

/-- **When a negotiation fails.**  With a checker that may answer anything and fail to start in any
way, the only fault is a number with too many digits, and it arises exactly if the first run gives
an overlong report, or gives no structured output while the text of the run that is read
instead is overlong. -/
theorem negotiate_fails_iff (home : Text) (checker : Checker σ) (launch : Launch) (memory : σ)
    (h : checker.OnlyFailsToStart) :
    (∀ fault, (negotiate home checker launch memory).1 = .error fault →
      ∃ n, Decimal.digitLimit < n ∧ fault = .tooManyDigits n) ∧
    ∃ first later second last,
      checker.run (structuredLaunch launch) memory = (.ok first, later) ∧
      checker.run launch later = (.ok second, last) ∧
      ((∃ fault, (negotiate home checker launch memory).1 = .error fault) ↔
        (first.started = true ∧ OpensContainer first.stdout ∧
            StructuredReport.IsOverlongReport first.stdout) ∨
          (¬(first.started = true ∧ IsJsonOutput first.stdout) ∧
            IsOverlongFallback launch first second)) := by
  obtain ⟨first, later, hfirst⟩ := Checker.exists_run_eq_ok h (structuredLaunch launch) memory
  obtain ⟨second, last, hsecond⟩ := Checker.exists_run_eq_ok h launch later
  have hoverflows := negotiate_overflows home hfirst hsecond
  exact ⟨fun fault hfault => hoverflows.eq_tooManyDigits hfault, first, later, second, last,
    hfirst, hsecond, hoverflows.error_iff⟩

/-- The member `line` of a record with what closes the record and its report. -/
def lineMember (line : Text) : Text :=
  .char '"' :: (text "line" ++ .char '"' :: .char ':' ::
    .char '"' :: (line ++ .char '"' :: .char '\x7d' :: [.char ']']))

/-- The report of one record that names a file and gives its line as a string. -/
def lineReport (line : Text) : Text :=
  .char '[' :: .char '\x7b' :: .char '"' :: (text "file" ++ .char '"' :: .char ':' ::
    .char '"' :: (text "a.c" ++ .char '"' :: .char ',' :: lineMember line))

theorem read_lineReport {line : Text} (h : ∀ c ∈ line, Json.IsPlain c) :
    Json.read (lineReport line)
      = .ok (.list [.object [(text "file", .str (text "a.c")), (text "line", .str line)]]) := by
  have hfile : ∀ c ∈ text "file", Json.IsPlain c := by decide
  have hname : ∀ c ∈ text "a.c", Json.IsPlain c := by decide
  have hline : ∀ c ∈ text "line", Json.IsPlain c := by decide
  obtain ⟨fuel, hfuel⟩ : ∃ fuel, 2 * (lineReport line).length + 2 = fuel + 6 :=
    ⟨2 * (lineReport line).length - 4, by simp only [lineReport, List.length_cons]; omega⟩
  have hlast : Json.readMembers .finite (fuel + 2) 988 (Json.skipSpace (lineMember line))
      = .ok ([(text "line", .str line)], [.char ']']) :=
    Json.readMembers_last hline rfl (Json.readValue_plain h _)
  have hmembers := Json.readMembers_next hfile rfl (Json.readValue_plain hname _) hlast
  have hrecord := Json.readValue_object rfl (by simp) hmembers
  refine Json.read_of_readValue rfl rfl ?_
  rw [hfuel]
  exact Json.readValue_list rfl (by simp) (Json.readItems_last hrecord)

/-- A record whose line has one digit more than are converted stops the whole negotiation, although
the line could take its default. -/
theorem negotiate_fails_iff_line :
    let line : Text := List.replicate 4301 (.char '1')
    let checker : Checker Unit := fun _ memory => (.ok { stdout := lineReport line }, memory)
    checker.OnlyFailsToStart ∧
      ∃ n, (negotiate (text "/") checker ⟨text "vitc", [text "check"], text "/p"⟩ ()).1
        = .error (.tooManyDigits n) := by
  intro line checker
  have hchecker : checker.OnlyFailsToStart := fun _ _ _ hfault => by cases hfault
  obtain ⟨hfault, first, later, second, last, hfirst, -, hiff⟩ :=
    negotiate_fails_iff (text "/") checker ⟨text "vitc", [text "check"], text "/p"⟩ () hchecker
  have hstdout : ({ stdout := lineReport line } : Invocation) = first :=
    Except.ok.inj (Prod.mk.inj hfirst).1
  subst hstdout
  have hplain : ∀ c ∈ line, Json.IsPlain c := by
    intro c hc
    rw [List.eq_of_mem_replicate hc]
    decide
  have hoverlong : (Value.str line).IsOverlong := by
    refine ⟨line, rfl, [], [], line, [], ?_, by simp, Or.inl rfl, ?_, ?_⟩
    · rw [List.append_nil]
      rfl
    · intro c hc
      rw [List.eq_of_mem_replicate hc]
      decide
    · rw [List.length_replicate]
      decide
  have hreport : StructuredReport.IsOverlongReport (lineReport line) := by
    refine Or.inr ⟨_, read_lineReport hplain, _, List.mem_cons_self .., ⟨_, _, rfl⟩, ?_⟩
    exact ⟨_, List.mem_cons_self .., hoverlong⟩
  obtain ⟨fault, herror⟩ := hiff.mpr (Or.inl ⟨rfl, (isLikely_iff _).mp rfl, hreport⟩)
  obtain ⟨n, -, rfl⟩ := hfault fault herror
  exact ⟨hchecker, n, herror⟩

end Negotiation

end DiagnosticRelay
