import DiagnosticRelay.Proofs.CapturedOutput.Settled
import DiagnosticRelay.Proofs.CommandLine.Status
import DiagnosticRelay.Proofs.Grouping.Buckets
import DiagnosticRelay.Proofs.Json.Ascii
import DiagnosticRelay.Proofs.Presentation.Document

/-!
# The document of a check

A check that is asked for JSON prints one document and ends with a status, and the two come about
separately: the document is written list by list, the status is a count over the collection.  A
program that runs the check may look at either.  `CheckCommand.run_document` says that the document
conveys what was published and that it agrees with the status, and where the limits of both are.

Lists by file in general may have coordinates that are too long, and then there is no document.  Of
a check there always is one, because the coordinates of what was read are short and stay so on their
way to the host (`Negotiation.isRead_of_negotiate`, `Grouped.isShort_of_ofDiagnostics`).  It is
always printed, because it is ASCII, and it names no file twice, because grouping does not.  All
that is lost is how halves of surrogate pairs are written.  Usually it makes no difference to the
errors, but a file with all the errors may become the same as a file published later; then the
status is one, and the document shows no error.
-/

namespace DiagnosticRelay

/-! ## Coordinates on their way to the host -/

theorem isShort_zeroBased {z : Int} (h : IsShort z) : IsShort (zeroBased z) := by
  have hle : (zeroBased z).natAbs ≤ z.natAbs := by
    rw [zeroBased]
    omega
  exact Nat.lt_of_le_of_lt hle h

theorem isShort_zeroBased_succ {z : Int} (h : IsShort z) : IsShort (zeroBased z + 1) := by
  have hle : (zeroBased z + 1).natAbs ≤ max 1 z.natAbs := by
    rw [zeroBased]
    omega
  exact Nat.lt_of_le_of_lt hle (Nat.max_lt.mpr ⟨isShort_one, h⟩)

theorem Position.isShort_toHost {position : Position} (h : position.IsShort) :
    position.toHost.IsShort :=
  ⟨isShort_zeroBased h.line, isShort_zeroBased h.column⟩

namespace HostRange

theorem isShort_character {position : Position} (h : position.IsShort) :
    (character position.toHost).start.IsShort ∧ (character position.toHost).stop.IsShort :=
  ⟨position.isShort_toHost h, isShort_zeroBased h.line, isShort_zeroBased_succ h.column⟩

theorem isShort_between {a b : Position} (ha : a.IsShort) (hb : b.IsShort) :
    (between a.toHost b.toHost).start.IsShort ∧ (between a.toHost b.toHost).stop.IsShort := by
  rw [between]
  split
  · exact isShort_character ha
  · split
    · exact ⟨Position.isShort_toHost hb, Position.isShort_toHost ha⟩
    · exact ⟨Position.isShort_toHost ha, Position.isShort_toHost hb⟩

/-- A short range is shown as a short range. -/
theorem isShort_ofRange? {range : Option Range} (h : ∀ held, range = some held → held.IsShort) :
    (ofRange? range).start.IsShort ∧ (ofRange? range).stop.IsShort := by
  cases range with
  | none => exact @isShort_character ⟨1, 1⟩ ⟨isShort_one, isShort_one⟩
  | some range =>
    obtain ⟨hstart, hstop⟩ := h range rfl
    rw [ofRange?]
    split
    · next stop hheld =>
      split
      · exact isShort_between hstart (hstop stop hheld)
      · exact isShort_character hstart
    · exact isShort_character hstart

end HostRange

theorem HostDiagnostic.isShort_of_toHost {directory : Text} {diagnostic : Diagnostic}
    (h : diagnostic.IsRead directory) {source : Option Text} {shown : HostDiagnostic}
    (hshown : diagnostic.toHost source = .ok shown) : shown.IsShort := by
  obtain ⟨code, -, heq⟩ := bind_eq_ok.mp hshown
  cases heq
  obtain ⟨hstart, hstop⟩ := HostRange.isShort_ofRange? h.range
  exact ⟨hstart, hstop⟩

/-- The groups of diagnostics that were read are short. -/
theorem Grouped.isShort_of_ofDiagnostics {directory : Text} {diagnostics : List Diagnostic}
    (h : ∀ diagnostic ∈ diagnostics, diagnostic.IsRead directory) {source : Option Text}
    {grouped : Grouped} (hgrouped : ofDiagnostics source diagnostics = .ok grouped) :
    grouped.IsShort := by
  rw [ofDiagnostics_eq_buckets, map_eq_ok] at hgrouped
  obtain ⟨entries, hentries, rfl⟩ := hgrouped
  intro entry hentry shown hshown
  rw [buckets] at hentry
  obtain ⟨file, -, rfl⟩ := List.mem_map.mp hentry
  obtain ⟨keyed, hkeyed, rfl⟩ := List.mem_map.mp hshown
  obtain ⟨diagnostic, hdiagnostic, hkeyed⟩ :=
    exists_of_mem_mapM hentries (List.mem_filter.mp hkeyed).1
  obtain ⟨held, hheld, rfl⟩ := map_eq_ok.mp hkeyed
  exact HostDiagnostic.isShort_of_toHost (h diagnostic (List.mem_filter.mp hdiagnostic).1) hheld

variable {σ : Type}

/-- What a negotiation ends with was read by one of the readers. -/
theorem Negotiation.isRead_of_negotiate {home : Text} {checker : Checker σ} {launch : Launch}
    {memory last : σ} {outcome : Outcome}
    (h : negotiate home checker launch memory = (.ok outcome, last)) :
    ∀ diagnostic ∈ outcome.diagnostics,
      diagnostic.IsRead (Path.Posix.join home launch.directory) := by
  have htext {invocations : List Invocation} {invocation : Invocation}
      (hread : readText (Path.Posix.join home launch.directory) invocations invocation
        = .ok outcome) :
      ∀ diagnostic ∈ outcome.diagnostics,
        diagnostic.IsRead (Path.Posix.join home launch.directory) :=
    TextReport.isRead_of_ofLines (readText_eq_ok hread).2.2
  obtain ⟨first, later, -, hcases⟩ := negotiate_cases h
  rcases hcases with ⟨found, hfound, rfl, -⟩ | ⟨-, ⟨-, -, second, -, hread⟩ | ⟨-, -, hread⟩⟩
  · exact StructuredReport.isRead_of_diagnostics? (structured?_eq_some hfound).2.2
  · exact htext hread
  · exact htext hread

/-- **What a check publishes** into an empty collection names no file twice, and its coordinates are
short. -/
theorem Check.isShort_of_run {probes : Probes} {home : NamedPath} {checker : Checker σ}
    {task : CheckTask} {published : Collection} {memory last : σ} {found : CheckReport}
    (h : run probes home checker task {} memory = (.ok found, published, last)) :
    (published.entries.map Prod.fst).Nodup ∧ published.entries.IsShort := by
  obtain ⟨launch, directory, outcome, hnegotiate, hreport, rfl⟩ := report_of_run h
  obtain ⟨⟨source, hgrouped⟩, -⟩ := report_eq_ok hreport
  have hproper := Collection.isProper_ofDiagnostics hgrouped
  rw [Collection.publish_eq hproper]
  exact ⟨hproper.nodup,
    Grouped.isShort_of_ofDiagnostics (Negotiation.isRead_of_negotiate hnegotiate) hgrouped⟩

/-! ## The printed document -/

namespace CommandLine

open Presentation (decode? document)

namespace CheckCommand

/-- A check that is asked for JSON prints the document of its collection. -/
theorem conclude_json {options : CheckOptions} {config : CheckConfig} {report : CheckReport}
    {published : Collection} {printed : Text} (hjson : options.output = .json)
    (hstart : report.startFault = none)
    (hprinted : (document published.entries).map (· ++ text "\n") = .ok printed) :
    conclude options config report published
      = { output := printed, status := statusOf published } := by
  rw [conclude, hstart, present, hjson]
  simp only
  rw [document, Outcome.write_document hprinted]
  rfl

theorem statusOf_eq_one_iff (published : Collection) :
    statusOf published = 1 ↔ published.entries.HasError := by
  have hzero := published.count_error_eq_zero_iff
  rw [statusOf]
  split
  · next h => exact iff_of_false (by decide) (hzero.mp h)
  · next h => exact iff_of_true rfl (Classical.not_not.mp (mt hzero.mpr h))

/-- What the document of a check and its status say about the diagnostics that were published. -/
structure DocumentLaw (published : Grouped) (outcome : Outcome) : Prop where
  fault : outcome.fault = none
  output : (document published).map (· ++ text "\n") = .ok outcome.output
  /-- The document conveys what was published, up to halves that are joined. -/
  decoded : decode? outcome.output = some (Grouped.merge published.joined)
  /-- That is what was published exactly if no two halves stand together. -/
  decoded_iff : decode? outcome.output = some published ↔ ¬published.HasPair
  zero_or_one : outcome.status = 0 ∨ outcome.status = 1
  status_iff : outcome.status = 1 ↔ published.HasError
  /-- The document shows an error only if the status is one. -/
  status_of_decoded : ∀ shown, decode? outcome.output = some shown → shown.HasError →
    outcome.status = 1
  /-- It shows one whenever the status is one, unless every error is of a file that a file published
  later becomes equal to. -/
  agree_iff : (∀ shown, decode? outcome.output = some shown →
      (outcome.status = 1 ↔ shown.HasError)) ↔
    (published.HasError → published.HasLastingError)

theorem documentLaw {published : Collection} {outcome : Outcome} {written : Text}
    (hdistinct : (published.entries.map Prod.fst).Nodup)
    (hwritten : document published.entries = .ok written)
    (houtcome : outcome = { output := written ++ text "\n", status := statusOf published }) :
    DocumentLaw published.entries outcome := by
  have hstatus : outcome.status = 1 ↔ published.entries.HasError := by
    rw [houtcome]
    exact statusOf_eq_one_iff published
  have hdecoded : decode? outcome.output = some (Grouped.merge published.entries.joined) := by
    rw [houtcome]
    exact Presentation.decode?_document hdistinct hwritten (Json.endsToken_lineFeed []) rfl
  refine ⟨by rw [houtcome], by rw [houtcome, hwritten]; rfl, hdecoded, ?_, ?_, hstatus, ?_, ?_⟩
  · rw [hdecoded, Option.some.injEq, Grouped.merge_joined_eq_iff hdistinct]
  · rw [houtcome, statusOf]
    split
    · exact Or.inl rfl
    · exact Or.inr rfl
  · intro shown hshown herror
    rw [hdecoded] at hshown
    cases hshown
    exact hstatus.mpr (Grouped.hasError_merge_joined_iff.mp herror).hasError
  · simp only [hdecoded, Option.some.injEq, forall_eq', hstatus, Grouped.hasError_merge_joined_iff]
    exact ⟨fun h => h.mp, fun h => ⟨h, fun hlasting => hlasting.hasError⟩⟩

/-- **The document of a check.**  Lists by file with distinct files have a document unless a
coordinate is too long, and it conveys them up to halves.  A check that is asked for JSON ends with
a fault and prints nothing, or, if the first run of the checker was started, prints the document of
what it published. -/
theorem run_document :
    (∀ entries : Grouped, (entries.map Prod.fst).Nodup →
      (entries.IsShort → ∃ written, document entries = .ok written ∧
        (decode? written = some entries ↔ ¬entries.HasPair)) ∧
      (¬entries.IsShort → document entries = .error .integerTooLong)) ∧
    ∀ (files : FileSystem) (environment : ConfigLayers.Environment)
      (checker : Option Binary64 → Checker σ) (options : CheckOptions) (config : CheckConfig)
      (memory last : σ) (made : List Launch) (outcome : Outcome),
      ConfigLayers.load files (projectRoot files options) environment options.overrides
        = .ok config →
      config.enabled = true → options.output = .json →
      run files environment (fun limit => (checker limit).recording) options (memory, [])
        = (outcome, last, made) →
      (∃ fault after, Check.run files.probes files.home (checker config.timeout).recording
          (task options config) {} (memory, []) = (.error fault, after) ∧
        outcome = { status := 1, fault := some fault }) ∨
      ∃ invocations report published,
        (checker config.timeout).runAll made.reverse memory = (.ok invocations, last) ∧
        Check.run files.probes files.home (checker config.timeout).recording
          (task options config) {} (memory, []) = (.ok report, published, last, made) ∧
        ((∃ first, invocations.head? = some first ∧ first.started = true) →
          DocumentLaw published.entries outcome) := by
  refine ⟨fun entries hdistinct => Presentation.document_cases hdistinct, ?_⟩
  intro files environment checker options config memory last made outcome hconfig henabled hjson
    hrun
  rw [run, hconfig] at hrun
  simp only [henabled, Bool.not_true, Bool.false_eq_true, if_false] at hrun
  split at hrun
  · next fault collection later hcheck =>
    obtain ⟨rfl, -⟩ := Prod.mk.inj hrun
    exact Or.inl ⟨fault, _, hcheck, rfl⟩
  · next report published later hcheck =>
    obtain ⟨rfl, rfl⟩ := Prod.mk.inj hrun
    obtain ⟨launch, negotiated, hnegotiate, hfault⟩ := Check.exists_negotiate_of_run hcheck
    obtain ⟨hcalls, -⟩ := Negotiation.negotiate_invocations hnegotiate
    refine Or.inr ⟨negotiated.invocations, report, published, hcalls, hcheck, ?_⟩
    rintro ⟨first, hfirst, hstarted⟩
    have hstart : report.startFault = none := by
      rw [hfault, hfirst]
      simpa [Invocation.started] using hstarted
    obtain ⟨hdistinct, hshort⟩ := Check.isShort_of_run hcheck
    obtain ⟨written, hwritten⟩ := (Presentation.writtenWhen_document hdistinct).ok_iff.mpr hshort
    have hprinted : (document published.entries).map (· ++ text "\n")
        = .ok (written ++ text "\n") := congrArg (Except.map _) hwritten
    exact documentLaw hdistinct hwritten (conclude_json hjson hstart hprinted)

/-- A check of the only file, asked for JSON. -/
def documentOptions : CheckOptions := { bareOptions with output := .json }

/-- A report on two files, the first of which comes back. -/
def documentReport : Text :=
  text "[\x7b\"file\": \"a.c\", \"line\": 3, \"column\": 4, \"message\": \"\\ud83d\\udc80\", " ++
  text "\"severity\": \"error\", \"code\": \"E1\"\x7d, " ++
  text "\x7b\"file\": \"b.c\", \"severity\": \"note\"\x7d, " ++
  text "\x7b\"file\": \"/p/./a.c\", \"line\": 1\x7d]"

/-- What is published of the report. -/
def documentEntries : Grouped := [
  (text "/p/a.c", [
    ⟨⟨⟨2, 3⟩, ⟨2, 4⟩⟩, text "💀", .error, some (text "E1"), some (text "vitc")⟩,
    ⟨⟨⟨0, 0⟩, ⟨0, 1⟩⟩, [], .info, none, some (text "vitc")⟩]),
  (text "/p/b.c", [⟨⟨⟨0, 0⟩, ⟨0, 1⟩⟩, [], .note, none, some (text "vitc")⟩])]

theorem load_documentOptions :
    ConfigLayers.load bareProject (projectRoot bareProject documentOptions) []
      documentOptions.overrides = .ok .default :=
  load_bareProject

/-- Lists with one coordinate that has too many digits. -/
def longEntries : Grouped :=
  [(text "/a", [⟨⟨⟨10 ^ Decimal.digitLimit, 0⟩, ⟨0, 1⟩⟩, [], .note, none, none⟩])]

theorem not_isShort_longEntries : ¬longEntries.IsShort := fun h =>
  not_isShort_limit (h _ (List.mem_singleton_self _) _ (List.mem_singleton_self _)).start.line

/-- The document of a check that publishes an error: it conveys what was published, and the status
is one.  Of lists with a long coordinate there is no document. -/
theorem run_document_published :
    let asking : Launch := ⟨text "vitc", [text "check", text "--format=json"], text "/p"⟩
    let answer : Invocation := { stdout := documentReport }
    ∃ written,
      let outcome : Outcome := { output := written ++ text "\n", status := 1 }
      document documentEntries = .ok written ∧
      (decode? written = some documentEntries ↔ ¬documentEntries.HasPair) ∧
      run bareProject [] (fun _ => Checker.scripted.recording) documentOptions
        ([.ok answer], []) = (outcome, [.ok answer], [asking]) ∧
      DocumentLaw documentEntries outcome ∧
      document longEntries = .error .integerTooLong := by
  intro asking answer
  have hdistinct : (documentEntries.map Prod.fst).Nodup := by decide
  have hwritten : document documentEntries
      = .ok (Json.writeDocument 0 (Presentation.documentValue documentEntries)) := by
    decide +kernel
  let outcome : Outcome := {
    output := Json.writeDocument 0 (Presentation.documentValue documentEntries) ++ text "\n"
    status := 1 }
  have hrun : run bareProject [] (fun _ => Checker.scripted.recording) documentOptions
      ([.ok answer], []) = (outcome, [.ok answer], [asking]) := by
    rw [run, load_documentOptions]
    decide +kernel
  have hentries : (Check.run bareProject.probes bareProject.home Checker.scripted.recording
      (task documentOptions .default) {} ([.ok answer], [])).2.1.entries = documentEntries := by
    decide +kernel
  have hshort := (Presentation.writtenWhen_document hdistinct).ok_iff.mp ⟨_, hwritten⟩
  obtain ⟨hlists, hchecks⟩ := @run_document (List (Except Fault Invocation))
  obtain ⟨written, hdocument, hdecoded⟩ := (hlists documentEntries hdistinct).1 hshort
  obtain rfl := Except.ok.inj (hwritten.symm.trans hdocument)
  refine ⟨_, hwritten, hdecoded, hrun, ?_, (hlists longEntries (by decide)).2
    not_isShort_longEntries⟩
  rcases hchecks bareProject [] (fun _ => Checker.scripted) documentOptions .default _ _ _ _
      load_documentOptions rfl rfl hrun with
    ⟨fault, after, -, hfault⟩ | ⟨invocations, report, published, hcalls, hcheck, hlaw⟩
  · exact absurd (congrArg Outcome.fault hfault) (by simp [outcome])
  · have hpublished : published.entries = documentEntries := by
      rw [hcheck] at hentries
      exact hentries
    rw [hpublished] at hlaw
    refine hlaw ⟨answer, ?_, rfl⟩
    rw [← (Except.ok.inj (Prod.mk.inj hcalls).1)]
    rfl

/-- A report on two files that become one when their halves are joined.  Only the first has an
error. -/
def becomingReport : Text :=
  text "[\x7b\"file\": \"a\\ud83d" ++ .ofValue 0xDC80 ::
    text "\", \"severity\": \"error\"\x7d, " ++
  text "\x7b\"file\": \"a\\ud83d\\udc80\", \"severity\": \"note\"\x7d]"

/-- The document of a check that publishes an error need not show it: the status is one, and the
only list that can be read off the document is that of the second file.  And lists with a long
coordinate have no document that could convey them. -/
theorem run_document_becoming :
    (∃ outcome shown published,
      (run bareProject [] (fun _ => Checker.scripted.recording) documentOptions
        ([.ok { stdout := becomingReport }], [])).1 = outcome ∧
      (Check.run bareProject.probes bareProject.home Checker.scripted.recording
        (task documentOptions .default) {} ([.ok { stdout := becomingReport }], [])).2.1.entries
          = published ∧
      outcome.fault = none ∧ outcome.status = 1 ∧ decode? outcome.output = some shown ∧
      shown ≠ published ∧ ¬shown.HasError) ∧
    (longEntries.map Prod.fst).Nodup ∧ ¬∃ written, document longEntries = .ok written := by
  have hdistinct : (longEntries.map Prod.fst).Nodup := by decide
  refine ⟨?_, hdistinct, fun hwritten =>
    not_isShort_longEntries ((Presentation.writtenWhen_document hdistinct).ok_iff.mp hwritten)⟩
  let late : HostDiagnostic := ⟨⟨⟨0, 0⟩, ⟨0, 1⟩⟩, [], .note, none, some (text "vitc")⟩
  let published : Grouped := [
    (text "/p/a" ++ [.surrogate 0x3D, .surrogate 0x480], [{ late with severity := .error }]),
    (text "/p/a💀", [late])]
  let outcome : Outcome := {
    output := Json.writeDocument 0 (Presentation.documentValue published) ++ text "\n"
    status := 1 }
  have hrun : (run bareProject [] (fun _ => Checker.scripted.recording) documentOptions
      ([.ok { stdout := becomingReport }], [])).1 = outcome := by
    rw [run, load_documentOptions]
    decide +kernel
  refine ⟨outcome, [(text "/p/a💀", [late])], published, hrun, by decide +kernel, rfl, rfl,
    by decide +kernel, by decide +kernel, ?_⟩
  rintro ⟨entry, hentry, diagnostic, hdiagnostic, herror⟩
  rw [List.mem_singleton.mp hentry] at hdiagnostic
  rw [List.mem_singleton.mp hdiagnostic] at herror
  cases herror

end CheckCommand

end CommandLine

end DiagnosticRelay
