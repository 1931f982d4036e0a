import DiagnosticRelay.CommandLine.Check
import DiagnosticRelay.Proofs.Check.Session
import DiagnosticRelay.Proofs.Negotiation.Protocol

/-!
# The status of a check

A check ends with status one if an error was published or if the *first* run of the checker could
not be started, and with status zero otherwise.  The command is documented to end with status one if
the checker could not be started at all, and a check may run the checker twice.  The two differ in
one situation: the first run gives output that is not JSON, the program is gone by the second run,
and nothing that was captured holds an error.  Then the check ends as if the checker had
found nothing.

* `Negotiation.negotiate_invocations` says which runs there are: one, or two of which the first
  was started.
* `CheckCommand.status_conclude` reads the status off a report and a collection.
* `CheckCommand.run_status` puts them together for a whole run of the command, and says exactly when
  the documented condition and the status differ.
-/

namespace DiagnosticRelay

/-! ## Published errors -/

namespace Collection

/-- Some diagnostic of the collection is an error. -/
def HasError (collection : Collection) : Prop :=
  ∃ entry ∈ collection.entries, ∃ diagnostic ∈ entry.2, diagnostic.severity = .error

theorem count_error_eq_zero_iff (collection : Collection) :
    collection.count (some .error) = 0 ↔ ¬collection.HasError := by
  rw [count, List.countP_eq_zero, HasError]
  constructor
  · rintro h ⟨entry, hentry, diagnostic, hdiagnostic, herror⟩
    exact h diagnostic (List.mem_flatMap.mpr ⟨entry, hentry, hdiagnostic⟩) (by simp [herror])
  · intro h diagnostic hmem herror
    obtain ⟨entry, hentry, hdiagnostic⟩ := List.mem_flatMap.mp hmem
    exact h ⟨entry, hentry, diagnostic, hdiagnostic, by simpa using herror⟩

end Collection

/-! ## The runs of a check -/

variable {σ : Type}

namespace Negotiation

/-- The calls that a negotiation recorded give its invocations, and there are one or two; there is a
second one only if the first was started. -/
theorem negotiate_invocations {home : Text} {checker : Checker σ} {launch : Launch}
    {memory last : σ} {outcome : Outcome} {made : List Launch}
    (h : negotiate home checker.recording launch (memory, []) = (.ok outcome, last, made)) :
    checker.runAll made.reverse memory = (.ok outcome.invocations, last) ∧
      ((∃ first, outcome.invocations = [first]) ∨
        ∃ first second, outcome.invocations = [first, second] ∧ first.started = true) := by
  obtain ⟨first, ⟨later, seen⟩, hrun, hcases⟩ := negotiate_cases h
  obtain ⟨hfirst, rfl⟩ := Checker.run_of_run_recording hrun
  rcases hcases with ⟨found, -, rfl, hlast⟩ |
    ⟨-, ⟨hstarted, -, second, hagain, hread⟩ | ⟨-, hlast, hread⟩⟩
  · obtain ⟨rfl, rfl⟩ := Prod.mk.inj hlast
    exact ⟨Checker.runAll_cons hfirst rfl, Or.inl ⟨first, rfl⟩⟩
  · obtain ⟨hsecond, rfl⟩ := Checker.run_of_run_recording hagain
    rw [(readText_eq_ok hread).2.1]
    exact ⟨Checker.runAll_cons hfirst (Checker.runAll_cons hsecond rfl),
      Or.inr ⟨first, second, rfl, hstarted⟩⟩
  · obtain ⟨rfl, rfl⟩ := Prod.mk.inj hlast
    rw [(readText_eq_ok hread).2.1]
    exact ⟨Checker.runAll_cons hfirst rfl, Or.inl ⟨first, rfl⟩⟩

end Negotiation

namespace Check

/-- A check that gives a report comes from a negotiation, and has published the report. -/
theorem report_of_run {probes : Probes} {home : NamedPath} {checker : Checker σ}
    {task : CheckTask} {before after : Collection} {memory last : σ} {found : CheckReport}
    (h : run probes home checker task before memory = (.ok found, after, last)) :
    ∃ launch directory outcome,
      Negotiation.negotiate home.toText checker launch memory = (.ok outcome, last) ∧
      report home task directory outcome = .ok found ∧
      after = before.publish found.grouped found.trigger := by
  rw [run] at h
  split at h
  · cases h
  · next outcome later hnegotiate =>
    split at h
    · cases h
    · next made hreport =>
      cases h
      exact ⟨_, _, outcome, hnegotiate, hreport, rfl⟩

/-- Its start fault is that of the first invocation. -/
theorem exists_negotiate_of_run {probes : Probes} {home : NamedPath} {checker : Checker σ}
    {task : CheckTask} {before after : Collection} {memory last : σ} {report : CheckReport}
    (h : run probes home checker task before memory = (.ok report, after, last)) :
    ∃ launch outcome,
      Negotiation.negotiate home.toText checker launch memory = (.ok outcome, last) ∧
      report.startFault = outcome.invocations.head?.bind (·.startFault) := by
  obtain ⟨launch, directory, outcome, hnegotiate, hreport, -⟩ := report_of_run h
  exact ⟨launch, outcome, hnegotiate, (report_eq_ok hreport).2⟩

end Check

/-! ## A configuration with nothing set -/

namespace ConfigLayers

/-- Layers that set nothing leave the default configuration. -/
theorem load_of_empty {files : FileSystem} {root : NamedPath} {environment : Environment}
    {overrides : Members} {found : List (Text × Members)}
    (h : layers files root environment overrides = .ok found)
    (hempty : ∀ layer ∈ found, layer.2 = []) :
    load files root environment overrides = .ok .default := by
  have hdefault : CheckConfig.ofMembers [] = .valid .default := rfl
  have hlayered : layered [] found = .ok [] := by
    clear h
    induction found with
    | nil => rfl
    | cons layer rest ih =>
      obtain ⟨name, keys⟩ := layer
      obtain rfl : keys = [] := hempty _ (List.mem_cons_self ..)
      rw [layered]
      simp only [Members.update, List.foldl_nil, hdefault]
      exact ih fun other hother => hempty other (List.mem_cons_of_mem _ hother)
  rw [load, h]
  simp only [bind, Except.bind, hlayered, hdefault]
  rfl

end ConfigLayers

/-! ## The status -/

namespace CommandLine

namespace Outcome

theorem fault_exit (outcome : Outcome) (status : Nat) :
    (outcome.exit status).fault = outcome.fault := by
  rw [exit]
  split <;> rfl

/-- A command that has not failed ends with the status that it is given. -/
theorem status_exit {outcome : Outcome} {status : Nat} (h : (outcome.exit status).fault = none) :
    (outcome.exit status).status = status := by
  rw [fault_exit] at h
  rw [exit, h]
  rfl

end Outcome

namespace CheckCommand

/-- The status of a finished check: one for a start fault or an error, else zero. -/
theorem status_conclude {options : CheckOptions} {config : CheckConfig} {report : CheckReport}
    {collection : Collection} (h : (conclude options config report collection).fault = none) :
    ((conclude options config report collection).status = 1 ∧
        (report.startFault.isSome = true ∨ collection.HasError)) ∨
      ((conclude options config report collection).status = 0 ∧
        report.startFault.isSome = false ∧ ¬collection.HasError) := by
  rw [conclude] at h ⊢
  cases hstart : report.startFault with
  | some fault =>
    simp only [hstart] at h
    exact Or.inl ⟨Outcome.status_exit h, Or.inl rfl⟩
  | none =>
    simp only [hstart] at h
    rw [← collection.count_error_eq_zero_iff]
    by_cases hcount : collection.count (some .error) = 0
    · refine Or.inr ⟨?_, rfl, hcount⟩
      exact (Outcome.status_exit h).trans (if_pos hcount)
    · have herror := mt collection.count_error_eq_zero_iff.mpr hcount
      refine Or.inl ⟨?_, Or.inr (Classical.not_not.mp herror)⟩
      exact (Outcome.status_exit h).trans (if_neg hcount)

/-- What the status of a check says about the invocations of the checker and the diagnostics that
were published. -/
structure StatusLaw (invocations : List Invocation) (collection : Collection) (status : Nat) :
    Prop where
  zero_or_one : status = 0 ∨ status = 1
  /-- Of the invocations, only the first has a say. -/
  one_iff : status = 1 ↔
    (∃ first, invocations.head? = some first ∧ first.started = false) ∨ collection.HasError
  /-- A failure to start of any invocation shows, unless it is the second and no error was
  published. -/
  documented_iff : (status = 1 ↔
      (∃ invocation ∈ invocations, invocation.started = false) ∨ collection.HasError) ↔
    ¬∃ first second, invocations = [first, second] ∧ second.started = false ∧
      ¬collection.HasError

theorem statusLaw_of_invocations {invocations : List Invocation} {collection : Collection}
    {startFault : Option Fault} {status : Nat}
    (hinvocations : (∃ first, invocations = [first]) ∨
      ∃ first second, invocations = [first, second] ∧ first.started = true)
    (hfault : startFault = invocations.head?.bind (·.startFault))
    (hstatus : (status = 1 ∧ (startFault.isSome = true ∨ collection.HasError)) ∨
      (status = 0 ∧ startFault.isSome = false ∧ ¬collection.HasError)) :
    StatusLaw invocations collection status := by
  have hhead : (∃ first, invocations.head? = some first ∧ first.started = false) ↔
      startFault.isSome = true := by
    rw [hfault]
    cases invocations with
    | nil => simp
    | cons first others => simp [Invocation.started]
  have hone : status = 1 ↔
      (∃ first, invocations.head? = some first ∧ first.started = false) ∨ collection.HasError := by
    rw [hhead]
    rcases hstatus with ⟨rfl, hcause⟩ | ⟨rfl, hstart, herror⟩
    · exact iff_of_true rfl hcause
    · refine iff_of_false (by decide) ?_
      rintro (h | h)
      · rw [h] at hstart
        cases hstart
      · exact herror h
  refine ⟨?_, hone, ?_⟩
  · rcases hstatus with ⟨h, -⟩ | ⟨h, -⟩
    · exact Or.inr h
    · exact Or.inl h
  · rw [hone]
    rcases hinvocations with ⟨first, rfl⟩ | ⟨first, second, rfl, hstarted⟩
    · refine iff_of_true (by simp) ?_
      rintro ⟨_, _, h, -⟩
      cases h
    · -- the first invocation was started, so everything depends on the second
      simp [hstarted]

/-- **The status of a check.** -/
theorem run_status (files : FileSystem) (environment : ConfigLayers.Environment)
    (checker : Option Binary64 → Checker σ) (options : CheckOptions) (config : CheckConfig)
    (memory last : σ) (made : List Launch) (outcome : Outcome)
    (hconfig : ConfigLayers.load files (projectRoot files options) environment options.overrides
      = .ok config)
    (henabled : config.enabled = true)
    (hrun : run files environment (fun limit => (checker limit).recording) options (memory, [])
      = (outcome, last, made))
    (hreturn : outcome.fault = none) :
    ∃ invocations report collection,
      (checker config.timeout).runAll made.reverse memory = (.ok invocations, last) ∧
      Check.run files.probes files.home (checker config.timeout).recording (task options config) {}
        (memory, []) = (.ok report, collection, last, made) ∧
      StatusLaw invocations collection outcome.status := by
  rw [run, hconfig] at hrun
  simp only [henabled, Bool.not_true, Bool.false_eq_true, if_false] at hrun
  split at hrun
  · next fault collection later hcheck =>
    obtain ⟨rfl, -⟩ := Prod.mk.inj hrun
    exact absurd hreturn (by simp [Outcome.raise])
  · next report collection later hcheck =>
    obtain ⟨rfl, rfl⟩ := Prod.mk.inj hrun
    obtain ⟨launch, negotiated, hnegotiate, hfault⟩ := Check.exists_negotiate_of_run hcheck
    obtain ⟨hcalls, hinvocations⟩ := Negotiation.negotiate_invocations hnegotiate
    exact ⟨negotiated.invocations, report, collection, hcalls, hcheck,
      statusLaw_of_invocations hinvocations hfault (status_conclude hreturn)⟩

/-- A directory with one file and no configuration. -/
def bareProject : FileSystem :=
  ⟨.directory [(text "p", .directory [(text "a.c", .file [] false)])], .ofText (text "/p")⟩

/-- A check of that file. -/
def bareOptions : CheckOptions := { file := .ofText (text "a.c") }

theorem load_bareProject :
    ConfigLayers.load bareProject (projectRoot bareProject bareOptions) [] bareOptions.overrides
      = .ok .default := by
  have hlayers :
      ConfigLayers.layers bareProject (projectRoot bareProject bareOptions) [] bareOptions.overrides
        = .ok [(ConfigLayers.projectDescription, []), (ConfigLayers.ownFile, []),
          (text "environment", []), (text "overrides", [])] := by
    rfl
  exact ConfigLayers.load_of_empty hlayers (by simp)

/-- The checker starts, refuses the argument that asks for JSON, and is gone when it is to be run
again.  The check ends as if there was nothing to report. -/
theorem run_status_unnoticed :
    let asking : Launch := ⟨text "vitc", [text "check", text "--format=json"], text "/p"⟩
    let launch : Launch := ⟨text "vitc", [text "check"], text "/p"⟩
    let refusal : Invocation := { stderr := text "unknown option", exitStatus := some 2 }
    let gone : Fault := .launch .notFound (text "gone")
    run bareProject [] (fun _ => Checker.scripted.recording) bareOptions
        ([.ok refusal, .error gone], [])
        = ({ output := text "✅ No diagnostics reported\n", status := 0 }, [.error gone],
          [launch, asking]) ∧
      ∃ invocations report collection,
        Checker.scripted.runAll [asking, launch] [.ok refusal, .error gone]
          = (.ok invocations, [.error gone]) ∧
        Check.run bareProject.probes bareProject.home Checker.scripted.recording
          (task bareOptions .default) {} ([.ok refusal, .error gone], [])
          = (.ok report, collection, [.error gone], [launch, asking]) ∧
        StatusLaw invocations collection 0 ∧
        invocations = [refusal, .ofStartFault gone] := by
  intro asking launch refusal gone
  have hrun : run bareProject [] (fun _ => Checker.scripted.recording) bareOptions
      ([.ok refusal, .error gone], [])
        = ({ output := text "✅ No diagnostics reported\n", status := 0 }, [.error gone],
          [launch, asking]) := by
    rw [run, load_bareProject]
    rfl
  obtain ⟨invocations, report, collection, hcalls, hcheck, hlaw⟩ :=
    run_status bareProject [] (fun _ => Checker.scripted) bareOptions .default _ _ _ _
      load_bareProject rfl hrun rfl
  refine ⟨hrun, invocations, report, collection, hcalls, hcheck, hlaw, ?_⟩
  exact (Except.ok.inj (Prod.mk.inj hcalls).1).symm

end CheckCommand

end CommandLine

end DiagnosticRelay
