import DiagnosticRelay.Check
import DiagnosticRelay.Proofs.Collection.Publication

/-!
# Checks on one collection, one after another

A host keeps one collection and checks into it again and again: other arguments, another file,
another checker, and some of the checks end in a fault.  What the collection holds afterwards
depends on one check only, the last that gave a report; a check with a fault might as well not have
been made.

Everything that can fail happens before the collection is touched for the first time.  That is the
content of `Attempt.run_cases`, which knows two cases: a fault and the same collection, or a report
and the collection published.  Which of the two it is does not depend on the collection.  The rest
is an induction on the list of attempts.

An attempt brings its own checker together with the memory that the checker starts from, so a
checker that lives through several attempts is an attempt each time with the memory that it has
by then.
-/

namespace DiagnosticRelay

/-- The lines that a report stands for in the journal. -/
def CheckReport.changes (report : CheckReport) : List Change :=
  report.grouped.changes report.trigger

namespace Check

/-- A report has the groups of the diagnostics, and the start fault of the first invocation. -/
theorem report_eq_ok {home : NamedPath} {task : CheckTask} {directory : NamedPath}
    {outcome : Negotiation.Outcome} {found : CheckReport}
    (h : report home task directory outcome = .ok found) :
    (∃ source, Grouped.ofDiagnostics source outcome.diagnostics = .ok found.grouped) ∧
      found.startFault = outcome.invocations.head?.bind (·.startFault) := by
  rw [report, bind_eq_ok] at h
  obtain ⟨grouped, hgrouped, heq⟩ := h
  cases heq
  exact ⟨⟨_, hgrouped⟩, rfl⟩

/-- A check as a host makes it: what is checked, by which checker, and from where. -/
structure Attempt where
  Memory : Type
  checker : Checker Memory
  memory : Memory
  probes : Probes
  home : NamedPath
  task : CheckTask

/-- Makes an attempt; what the checker remembers is dropped. -/
def Attempt.run (attempt : Attempt) (collection : Collection) :
    Except Fault CheckReport × Collection :=
  let (answer, after, _) := Check.run attempt.probes attempt.home attempt.checker attempt.task
    collection attempt.memory
  (answer, after)

/-- **An attempt fails and changes nothing, or it gives a report and publishes it.** -/
theorem Attempt.run_cases (attempt : Attempt) :
    (∃ fault, ∀ collection, attempt.run collection = (.error fault, collection)) ∨
    (∃ report, report.grouped.IsProper ∧ ∀ collection,
      attempt.run collection = (.ok report, collection.publish report.grouped report.trigger)) := by
  obtain ⟨Memory, checker, memory, probes, home, task⟩ := attempt
  simp only [run, Check.run]
  rcases Negotiation.negotiate home.toText checker _ memory with ⟨fault | outcome, later⟩
  · exact Or.inl ⟨fault, fun _ => rfl⟩
  · simp only
    cases hreport : report home task (ProjectRoot.workingDirectory probes home task.directory
        task.markers (home.append task.trigger)) outcome with
    | error fault => exact Or.inl ⟨fault, fun _ => rfl⟩
    | ok found =>
      obtain ⟨⟨source, hgrouped⟩, -⟩ := report_eq_ok hreport
      exact Or.inr ⟨found, Collection.isProper_ofDiagnostics hgrouped, fun _ => rfl⟩

/-- The outcome of an attempt in full. -/
theorem Attempt.run_eq (attempt : Attempt) (collection : Collection) :
    match attempt.run collection with
    | (.error _, after) => after = collection
    | (.ok report, after) => after = ⟨report.grouped, collection.journal ++ report.changes⟩ := by
  rcases attempt.run_cases with ⟨fault, h⟩ | ⟨report, hproper, h⟩
  · rw [h]
  · rw [h]
    exact Collection.publish_eq hproper collection report.trigger

/-! ## A sequence of attempts -/

/-- Makes attempts one after another, and goes on after one that fails. -/
def session : List Attempt → Collection → List (Except Fault CheckReport) × Collection
  | [], collection => ([], collection)
  | attempt :: rest, collection =>
    let (answer, after) := attempt.run collection
    let (answers, last) := session rest after
    (answer :: answers, last)

/-- The reports among some answers. -/
def reports (answers : List (Except Fault CheckReport)) : List CheckReport :=
  answers.filterMap Except.toOption

theorem session_cons_error {attempt : Attempt} {collection : Collection} {fault : Fault}
    (h : attempt.run collection = (.error fault, collection)) (rest : List Attempt) :
    reports (session (attempt :: rest) collection).1 = reports (session rest collection).1 ∧
      (session (attempt :: rest) collection).2 = (session rest collection).2 := by
  rw [session, h]
  exact ⟨rfl, rfl⟩

theorem session_cons_ok {attempt : Attempt} {collection after : Collection}
    {report : CheckReport} (h : attempt.run collection = (.ok report, after))
    (rest : List Attempt) :
    reports (session (attempt :: rest) collection).1
        = report :: reports (session rest after).1 ∧
      (session (attempt :: rest) collection).2 = (session rest after).2 := by
  rw [session, h]
  exact ⟨rfl, rfl⟩

/-- The answers do not depend on the collection. -/
theorem fst_session_congr (attempts : List Attempt) (collection other : Collection) :
    (session attempts collection).1 = (session attempts other).1 := by
  induction attempts generalizing collection other with
  | nil => rfl
  | cons attempt rest ih =>
    rcases attempt.run_cases with ⟨fault, h⟩ | ⟨report, -, h⟩
    · simp only [session, h, ih collection other]
    · simp only [session, h]
      rw [ih]

/-- The collection after a session: the last report, if there is one, and a journal of all. -/
theorem snd_session (attempts : List Attempt) (collection : Collection) :
    (session attempts collection).2
      = ⟨((reports (session attempts collection).1).getLast?.map CheckReport.grouped).getD
            collection.entries,
          collection.journal
            ++ (reports (session attempts collection).1).flatMap CheckReport.changes⟩ := by
  induction attempts generalizing collection with
  | nil => simp [session, reports]
  | cons attempt rest ih =>
    rcases attempt.run_cases with ⟨fault, h⟩ | ⟨report, hproper, h⟩
    · obtain ⟨hreports, hafter⟩ := session_cons_error (h collection) rest
      rw [hafter, hreports]
      exact ih collection
    · obtain ⟨hreports, hafter⟩ := session_cons_ok (h collection) rest
      rw [hafter, hreports, ih, Collection.publish_eq hproper]
      rw [List.getLast?_cons, List.flatMap_cons, CheckReport.changes, List.append_assoc]
      cases (reports (session rest _).1).getLast? <;> rfl

/-- A session, too, amounts to a history of calls. -/
theorem exists_replay_eq_session (attempts : List Attempt) (collection : Collection) :
    ∃ operations, (session attempts collection).2 = collection.replay operations := by
  induction attempts generalizing collection with
  | nil => exact ⟨[], rfl⟩
  | cons attempt rest ih =>
    rcases attempt.run_cases with ⟨fault, h⟩ | ⟨report, -, h⟩
    · rw [(session_cons_error (h collection) rest).2]
      exact ih collection
    · obtain ⟨operations, hoperations⟩ := ih (collection.publish report.grouped report.trigger)
      refine ⟨Collection.publication report.grouped report.trigger ++ operations, ?_⟩
      rw [(session_cons_ok (h collection) rest).2, hoperations, Collection.publish_eq_replay,
        Collection.replay_append]

/-! ## Full replacement -/

/-- What a session makes of a collection. -/
structure Replacement (attempts : List Attempt) (before : Collection) : Prop where
  /-- The entries are those of the last report, in its order, or else as they were. -/
  entries : (session attempts before).2.entries
    = ((reports (session attempts before).1).getLast?.map CheckReport.grouped).getD before.entries
  /-- No file is held with an empty list. -/
  nonempty : ∀ entry ∈ (session attempts before).2.entries, entry.2 ≠ []
  /-- After a report nothing is left of what was there before the session. -/
  forgetful : reports (session attempts before).1 ≠ [] → ∀ other,
    (session attempts other).2.entries = (session attempts before).2.entries
  /-- Each report adds its lines to the journal, and nothing else does. -/
  journal : (session attempts before).2.journal
    = before.journal ++ (reports (session attempts before).1).flatMap CheckReport.changes
  /-- Each attempt by itself, wherever it stands: all or nothing. -/
  each : ∀ attempt ∈ attempts, ∀ collection,
    match attempt.run collection with
    | (.error _, after) => after = collection
    | (.ok report, after) => after = ⟨report.grouped, collection.journal ++ report.changes⟩

/-- **Full replacement over whole histories.**  Whatever calls a collection has gone through and
whatever checks are then made on it, with faults among them or not, it holds the last report. -/
theorem session_replaces (history : List Collection.Operation) (attempts : List Attempt) :
    Replacement attempts (({} : Collection).replay history) := by
  have hafter := snd_session attempts (({} : Collection).replay history)
  refine ⟨by rw [hafter], ?_, ?_, by rw [hafter], fun attempt _ => attempt.run_eq⟩
  · obtain ⟨operations, hoperations⟩ :=
      exists_replay_eq_session attempts (({} : Collection).replay history)
    rw [hoperations, ← Collection.replay_append]
    exact (Collection.isProper_replay Grouped.isProper_nil _).nonempty
  · intro hreports other
    rw [snd_session attempts other, hafter,
      fst_session_congr attempts other (({} : Collection).replay history)]
    rw [List.getLast?_eq_some_getLast hreports]
    rfl

end Check

end DiagnosticRelay
