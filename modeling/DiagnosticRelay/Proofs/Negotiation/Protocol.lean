import DiagnosticRelay.Negotiation
import DiagnosticRelay.Proofs.StructuredReport.Outcome

/-!
# What a negotiation asks of a checker

A negotiation that comes to an end has made one or two calls.  This module says which ones, when
there is a second, and which output the diagnostics are read from.  All of it is said in terms
of what goes in and what comes out: the launches that the checker has seen, in order, and the
invocations that it gave back.

* `ChoosesFormat` and `IsJsonOutput` are the two conditions on which everything depends, said
  without the tests that the program uses: an argument that is `--format` or begins with
  `--format=`, and text that opens a container once it is trimmed and is a JSON document.
* `Checker.runAll` makes a list of calls one after another.  It is the second side of the account:
  the calls that were recorded, made again from the same memory, give the invocations of the
  outcome.
* `negotiate_cases` lists the three ways in which a negotiation can come to an end, and
  `negotiate_protocol` reads the protocol off them.

## Why a start failure needs no case of its own

A checker may report a failure to start or raise it.  `Checker.run` turns the second into the
first, so below there is only an invocation that has not started; it is never run again, because
its output cannot be JSON and a second call is made for started invocations only.
-/

namespace DiagnosticRelay

namespace Checker

variable {σ : Type}

/-- Some launches one after another, up to a fault that stops the run. -/
def runAll (checker : Checker σ) : List Launch → σ → Except Fault (List Invocation) × σ
  | [], memory => (.ok [], memory)
  | launch :: launches, memory =>
    match checker.run launch memory with
    | (.error fault, memory) => (.error fault, memory)
    | (.ok invocation, memory) =>
      match checker.runAll launches memory with
      | (.error fault, memory) => (.error fault, memory)
      | (.ok invocations, memory) => (.ok (invocation :: invocations), memory)

theorem runAll_cons {checker : Checker σ} {launch : Launch} {memory later : σ}
    {invocation : Invocation} (h : checker.run launch memory = (.ok invocation, later))
    {launches : List Launch} {invocations : List Invocation} {last : σ}
    (hrest : checker.runAll launches later = (.ok invocations, last)) :
    checker.runAll (launch :: launches) memory = (.ok (invocation :: invocations), last) := by
  rw [runAll, h]
  simp only [hrest]

/-- Recording a launch changes nothing else. -/
theorem run_recording (checker : Checker σ) (launch : Launch) (memory : σ) (made : List Launch) :
    checker.recording.run launch (memory, made)
      = ((checker.run launch memory).1, (checker.run launch memory).2, launch :: made) := by
  rw [run, run, recording]
  rcases checker launch memory with ⟨fault | invocation, later⟩
  · by_cases hstart : fault.isStartFailure = true
    · simp only [if_pos hstart]
    · simp only [if_neg hstart]
  · rfl

/-- A recorded call that gives an invocation is a call of the checker itself. -/
theorem run_of_run_recording {checker : Checker σ} {launch : Launch} {memory later : σ}
    {made seen : List Launch} {invocation : Invocation}
    (h : checker.recording.run launch (memory, made) = (.ok invocation, later, seen)) :
    checker.run launch memory = (.ok invocation, later) ∧ seen = launch :: made := by
  rw [run_recording] at h
  obtain ⟨hout, hstate⟩ := Prod.mk.inj h
  obtain ⟨hlater, hseen⟩ := Prod.mk.inj hstate
  exact ⟨Prod.ext hout hlater, hseen.symm⟩

end Checker

namespace Negotiation

/-! ## The two conditions -/

/-- An argument that chooses an output format: `--format`, alone or with a value after `=`. -/
def ChoosesFormat (argument : Text) : Prop :=
  argument = text "--format" ∨ ∃ form, argument = text "--format=" ++ form

/-- Text that opens a JSON container once the blanks around it are gone. -/
def OpensContainer (output : Text) : Prop :=
  ∃ rest, Text.trim output = .char '\x7b' :: rest ∨ Text.trim output = .char '[' :: rest

/-- Text that opens a JSON container and is a JSON document. -/
def IsJsonOutput (output : Text) : Prop :=
  OpensContainer output ∧ ∃ document, Json.read output = .ok document

theorem isFormatFlag_iff (argument : Text) :
    isFormatFlag argument = true ↔ ChoosesFormat argument := by
  rw [isFormatFlag, Bool.or_eq_true, beq_iff_eq, Text.startsWith, List.isPrefixOf_iff_prefix,
    ChoosesFormat]
  constructor
  · rintro (h | ⟨form, h⟩)
    · exact Or.inl h
    · exact Or.inr ⟨form, h.symm⟩
  · rintro (h | ⟨form, h⟩)
    · exact Or.inl h
    · exact Or.inr ⟨form, h.symm⟩

theorem hasFormatFlag_iff (arguments : List Text) :
    hasFormatFlag arguments = true ↔ ∃ argument ∈ arguments, ChoosesFormat argument := by
  rw [hasFormatFlag, List.any_eq_true]
  simp only [isFormatFlag_iff]

theorem structuredArguments_of_hasFormatFlag {arguments : List Text}
    (h : hasFormatFlag arguments = true) : structuredArguments arguments = arguments := by
  rw [structuredArguments, if_pos h]

theorem structuredArguments_of_not_hasFormatFlag {arguments : List Text}
    (h : ¬ hasFormatFlag arguments = true) :
    structuredArguments arguments = arguments ++ [text "--format=json"] := by
  rw [structuredArguments, if_neg h, jsonFormat]

/-- Trimming keeps the first code point that is not blank. -/
theorem trim_eq_cons_iff (t : Text) (c : CodePoint) :
    (∃ rest, Text.trim t = c :: rest) ↔ ∃ rest, t.dropWhile CodePoint.isBlank = c :: rest := by
  rw [Text.trim, Text.trimBy]
  cases h : t.dropWhile CodePoint.isBlank with
  | nil => simp
  | cons d inked =>
    -- the first code point that is left is not blank, so the second trimming stops at it
    have hd : d.isBlank = false := by
      have := List.head?_dropWhile_not CodePoint.isBlank t
      rw [h] at this
      simpa using this
    have htrim : ((d :: inked).reverse.dropWhile CodePoint.isBlank).reverse
        = d :: (inked.reverse.dropWhile CodePoint.isBlank).reverse := by
      rw [List.reverse_cons, List.dropWhile_append]
      by_cases hall : (inked.reverse.dropWhile CodePoint.isBlank).isEmpty = true
      · rw [if_pos hall, List.dropWhile_cons_of_neg (by simp [hd]), List.isEmpty_iff.mp hall]
        rfl
      · rw [if_neg hall, List.reverse_append]
        rfl
    rw [htrim]
    simp

theorem isLikely_iff (output : Text) :
    StructuredReport.isLikely output = true ↔ OpensContainer output := by
  rw [OpensContainer, exists_or, trim_eq_cons_iff, trim_eq_cons_iff, StructuredReport.isLikely]
  split
  · next rest h => simp [h]
  · next rest h => simp [h]
  · next hbrace hbracket =>
    constructor
    · intro h
      exact absurd h (by simp)
    · rintro (⟨rest, h⟩ | ⟨rest, h⟩)
      · exact absurd h (hbrace rest)
      · exact absurd h (hbracket rest)

theorem structured?_eq_some {directory : Text} {invocation : Invocation} {found : List Diagnostic}
    (h : structured? directory invocation = .ok (some found)) :
    invocation.started = true ∧ IsJsonOutput invocation.stdout ∧
      StructuredReport.diagnostics? directory invocation.stdout = .ok (some found) := by
  rw [structured?] at h
  split at h
  · next hlikely =>
    rw [Bool.and_eq_true, isLikely_iff] at hlikely
    obtain ⟨document, hread, -⟩ := StructuredReport.diagnostics?_eq_some_iff.mp h
    exact ⟨hlikely.1, ⟨hlikely.2, document, hread⟩, h⟩
  · exact absurd (Except.ok.inj h) (by simp)

theorem structured?_eq_none {directory : Text} {invocation : Invocation}
    (h : structured? directory invocation = .ok none) :
    ¬(invocation.started = true ∧ IsJsonOutput invocation.stdout) := by
  rintro ⟨hstarted, hopens, document, hread⟩
  rw [structured?, hstarted, (isLikely_iff _).mpr hopens] at h
  obtain ⟨failure, hfailure, -⟩ := StructuredReport.diagnostics?_eq_none_iff.mp h
  rw [hread] at hfailure
  cases hfailure

/-! ## The ways to come to an end -/

variable {σ : Type}

/-- The first launch of a negotiation. -/
def structuredLaunch (launch : Launch) : Launch :=
  { launch with arguments := structuredArguments launch.arguments }

theorem readText_eq_ok {directory : Text} {invocations : List Invocation} {last : Invocation}
    {outcome : Outcome} (h : readText directory invocations last = .ok outcome) :
    outcome.strategy = .text ∧ outcome.invocations = invocations ∧
      TextReport.diagnostics directory last.combinedOutput = .ok outcome.diagnostics := by
  rw [readText, bind_eq_ok] at h
  obtain ⟨found, hfound, h⟩ := h
  rw [← Except.ok.inj h]
  exact ⟨rfl, rfl, hfound⟩

/-- A negotiation ends with structured output, with text output after a second run, or with the
text output of the only run. -/
theorem negotiate_cases {home : Text} {checker : Checker σ} {launch : Launch} {memory last : σ}
    {outcome : Outcome} (h : negotiate home checker launch memory = (.ok outcome, last)) :
    ∃ first later, checker.run (structuredLaunch launch) memory = (.ok first, later) ∧
      ((∃ found, structured? (Path.Posix.join home launch.directory) first = .ok (some found) ∧
          outcome = ⟨found, .json, [first]⟩ ∧ last = later) ∨
        structured? (Path.Posix.join home launch.directory) first = .ok none ∧
          ((first.started = true ∧ ¬ hasFormatFlag launch.arguments = true ∧
              ∃ second, checker.run launch later = (.ok second, last) ∧
                readText (Path.Posix.join home launch.directory) [first, second] second
                  = .ok outcome) ∨
            (¬(first.started = true ∧ ¬ hasFormatFlag launch.arguments = true) ∧ last = later ∧
              readText (Path.Posix.join home launch.directory) [first] first = .ok outcome))) := by
  rw [negotiate] at h
  split at h
  · exact absurd (Prod.mk.inj h).1 (by simp)
  · next first later hfirst =>
    refine ⟨first, later, hfirst, ?_⟩
    split at h
    · exact absurd (Prod.mk.inj h).1 (by simp)
    · next found hfound =>
      obtain ⟨houtcome, hlast⟩ := Prod.mk.inj h
      exact Or.inl ⟨found, hfound, (Except.ok.inj houtcome).symm, hlast.symm⟩
    · next hnone =>
      refine Or.inr ⟨hnone, ?_⟩
      split at h
      · next hagain =>
        rw [Bool.and_eq_true, Bool.not_eq_true'] at hagain
        split at h
        · exact absurd (Prod.mk.inj h).1 (by simp)
        · next second lastly hsecond =>
          obtain ⟨houtcome, hlast⟩ := Prod.mk.inj h
          rw [hlast] at hsecond
          exact Or.inl ⟨hagain.1, by simp [hagain.2], second, hsecond, houtcome⟩
      · next hagain =>
        obtain ⟨houtcome, hlast⟩ := Prod.mk.inj h
        refine Or.inr ⟨?_, hlast.symm, houtcome⟩
        simpa using hagain

/-! ## The protocol -/

/-- What is promised of a negotiation for a launch, given the calls that were made, in order, and
the invocation that the first of them gave. -/
structure Protocol (directory : Text) (launch : Launch) (calls : List Launch) (first : Invocation)
    (outcome : Outcome) : Prop where
  /-- The first call has exactly the caller's arguments if one of them chooses a format. -/
  first_call_chosen : (∃ argument ∈ launch.arguments, ChoosesFormat argument) →
    calls.head? = some launch
  /-- Otherwise it has one more argument, which asks for JSON. -/
  first_call_asking : (¬ ∃ argument ∈ launch.arguments, ChoosesFormat argument) →
    calls.head? = some { launch with arguments := launch.arguments ++ [text "--format=json"] }
  /-- A second call is made exactly if we asked for JSON, the program started and gave none. -/
  second_call : calls.tail ≠ [] ↔
    (¬ ∃ argument ∈ launch.arguments, ChoosesFormat argument) ∧ first.started = true ∧
      ¬ IsJsonOutput first.stdout
  /-- The only call after the first is the caller's launch, once. -/
  later_calls : calls.tail = [] ∨ calls.tail = [launch]
  first_invocation : outcome.invocations.head? = some first
  /-- Structured output is used exactly if there is some. -/
  json_iff : outcome.strategy = .json ↔ first.started = true ∧ IsJsonOutput first.stdout
  /-- Then the diagnostics are those of the first output. -/
  json_diagnostics : outcome.strategy = .json →
    StructuredReport.diagnostics? directory first.stdout = .ok (some outcome.diagnostics)
  /-- Otherwise they are those of the text of the last invocation. -/
  text_diagnostics : outcome.strategy = .text → ∃ last,
    outcome.invocations.getLast? = some last ∧
      TextReport.diagnostics directory last.combinedOutput = .ok outcome.diagnostics

/-- The first call of every negotiation. -/
theorem structuredLaunch_of_chooses {launch : Launch}
    (h : ∃ argument ∈ launch.arguments, ChoosesFormat argument) :
    structuredLaunch launch = launch := by
  rw [structuredLaunch, structuredArguments_of_hasFormatFlag ((hasFormatFlag_iff _).mpr h)]

theorem structuredLaunch_of_not_chooses {launch : Launch}
    (h : ¬ ∃ argument ∈ launch.arguments, ChoosesFormat argument) :
    structuredLaunch launch
      = { launch with arguments := launch.arguments ++ [text "--format=json"] } := by
  rw [structuredLaunch,
    structuredArguments_of_not_hasFormatFlag (fun hflag => h ((hasFormatFlag_iff _).mp hflag))]

/-- One call was enough because the output is structured. -/
theorem protocol_of_json {directory : Text} {launch : Launch} {first : Invocation}
    {found : List Diagnostic} (h : structured? directory first = .ok (some found)) :
    Protocol directory launch [structuredLaunch launch] first ⟨found, .json, [first]⟩ := by
  obtain ⟨hstarted, hjson, hfound⟩ := structured?_eq_some h
  exact {
    first_call_chosen := fun hchooses => by rw [structuredLaunch_of_chooses hchooses]; rfl
    first_call_asking := fun hchooses => by rw [structuredLaunch_of_not_chooses hchooses]; rfl
    second_call := ⟨fun hcall => absurd rfl hcall, fun hagain => absurd hjson hagain.2.2⟩
    later_calls := Or.inl rfl
    first_invocation := rfl
    json_iff := ⟨fun _ => ⟨hstarted, hjson⟩, fun _ => rfl⟩
    json_diagnostics := fun _ => hfound
    text_diagnostics := fun hstrategy => absurd hstrategy (by simp) }

/-- The output is not structured, and the program is not run again. -/
theorem protocol_of_text {directory : Text} {launch : Launch} {first : Invocation}
    {outcome : Outcome} (h : structured? directory first = .ok none)
    (hagain : ¬(first.started = true ∧ ¬ hasFormatFlag launch.arguments = true))
    (hread : readText directory [first] first = .ok outcome) :
    Protocol directory launch [structuredLaunch launch] first outcome := by
  obtain ⟨hstrategy, hinvocations, hfound⟩ := readText_eq_ok hread
  have hnot := structured?_eq_none h
  rw [hasFormatFlag_iff] at hagain
  exact {
    first_call_chosen := fun hchooses => by rw [structuredLaunch_of_chooses hchooses]; rfl
    first_call_asking := fun hchooses => by rw [structuredLaunch_of_not_chooses hchooses]; rfl
    second_call := ⟨fun hcall => absurd rfl hcall,
      fun hcall => absurd ⟨hcall.2.1, hcall.1⟩ hagain⟩
    later_calls := Or.inl rfl
    first_invocation := by rw [hinvocations]; rfl
    json_iff := ⟨fun hjson => absurd (hstrategy.symm.trans hjson) (by simp),
      fun hjson => absurd hjson hnot⟩
    json_diagnostics := fun hjson => absurd (hstrategy.symm.trans hjson) (by simp)
    text_diagnostics := fun _ => ⟨first, by rw [hinvocations]; rfl, hfound⟩ }

/-- The output is not structured, and the program is run again as the caller wanted. -/
theorem protocol_of_again {directory : Text} {launch : Launch} {first second : Invocation}
    {outcome : Outcome} (h : structured? directory first = .ok none)
    (hstarted : first.started = true) (hflag : ¬ hasFormatFlag launch.arguments = true)
    (hread : readText directory [first, second] second = .ok outcome) :
    Protocol directory launch [structuredLaunch launch, launch] first outcome := by
  obtain ⟨hstrategy, hinvocations, hfound⟩ := readText_eq_ok hread
  have hnot := structured?_eq_none h
  rw [hasFormatFlag_iff] at hflag
  exact {
    first_call_chosen := fun hchooses => absurd hchooses hflag
    first_call_asking := fun hchooses => by rw [structuredLaunch_of_not_chooses hchooses]; rfl
    second_call := ⟨fun _ => ⟨hflag, hstarted, fun hjson => hnot ⟨hstarted, hjson⟩⟩,
      fun _ => List.cons_ne_nil _ _⟩
    later_calls := Or.inr rfl
    first_invocation := by rw [hinvocations]; rfl
    json_iff := ⟨fun hjson => absurd (hstrategy.symm.trans hjson) (by simp),
      fun hjson => absurd hjson hnot⟩
    json_diagnostics := fun hjson => absurd (hstrategy.symm.trans hjson) (by simp)
    text_diagnostics := fun _ => ⟨second, by rw [hinvocations]; rfl, hfound⟩ }

/-- **The negotiation protocol.**  Whatever the checker does and remembers, a negotiation that
ends has made the recorded calls in this order, its outcome lists what they gave, and calls and
outcome keep the protocol. -/
theorem negotiate_protocol (home : Text) (checker : Checker σ) (launch : Launch) (memory : σ)
    (outcome : Outcome) (last : σ) (made : List Launch)
    (h : negotiate home checker.recording launch (memory, []) = (.ok outcome, last, made)) :
    checker.runAll made.reverse memory = (.ok outcome.invocations, last) ∧
      ∃ first, Protocol (Path.Posix.join home launch.directory) launch made.reverse first
        outcome := by
  obtain ⟨first, ⟨later, seen⟩, hrun, hcases⟩ := negotiate_cases h
  obtain ⟨hfirst, hseen⟩ := Checker.run_of_run_recording hrun
  rcases hcases with ⟨found, hfound, houtcome, hlast⟩ |
    ⟨hnone, ⟨hstarted, hflag, second, hagain, hread⟩ | ⟨hagain, hlast, hread⟩⟩
  · obtain ⟨rfl, rfl⟩ := Prod.mk.inj hlast
    rw [houtcome, hseen]
    exact ⟨Checker.runAll_cons hfirst rfl, first, protocol_of_json hfound⟩
  · obtain ⟨hsecond, hmade⟩ := Checker.run_of_run_recording hagain
    rw [(readText_eq_ok hread).2.1, hmade, hseen]
    exact ⟨Checker.runAll_cons hfirst (Checker.runAll_cons hsecond rfl), first,
      protocol_of_again hnone hstarted hflag hread⟩
  · obtain ⟨rfl, rfl⟩ := Prod.mk.inj hlast
    rw [(readText_eq_ok hread).2.1, hseen]
    exact ⟨Checker.runAll_cons hfirst rfl, first, protocol_of_text hnone hagain hread⟩

/-- A checker that answers the request for JSON with a broken document is asked once more, with
exactly the caller's arguments, and the text of its second answer is read. -/
theorem negotiate_protocol_again :
    let launch : Launch := ⟨text "vitc", [text "check"], text "src"⟩
    let asking : Launch := ⟨text "vitc", [text "check", text "--format=json"], text "src"⟩
    let broken : Invocation := { stdout := text "[oops" }
    let report : Invocation := { stderr := text "a.c:1:2: error: x" }
    let found : Diagnostic :=
      { file := text "/p/src/a.c", message := text "x", severity := .error,
        range := some ⟨⟨1, 2⟩, none⟩ }
    negotiate (text "/p") Checker.scripted.recording launch ([.ok broken, .ok report], [])
        = (.ok ⟨[found], .text, [broken, report]⟩, [.ok report], [launch, asking]) ∧
      Checker.scripted.runAll [asking, launch] [.ok broken, .ok report]
        = (.ok [broken, report], [.ok report]) ∧
      ∃ first, Protocol (text "/p/src") launch [asking, launch] first
        ⟨[found], .text, [broken, report]⟩ := by
  intro launch asking broken report found
  have h : negotiate (text "/p") Checker.scripted.recording launch
      ([.ok broken, .ok report], [])
        = (.ok ⟨[found], .text, [broken, report]⟩, [.ok report], [launch, asking]) := rfl
  exact ⟨h, negotiate_protocol (text "/p") Checker.scripted launch _ _ _ _ h⟩

end Negotiation

end DiagnosticRelay
