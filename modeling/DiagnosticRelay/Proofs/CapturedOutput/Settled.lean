import DiagnosticRelay.CapturedOutput
import DiagnosticRelay.Proofs.Grouping.Key
import DiagnosticRelay.Proofs.LineGrammar.Frame
import DiagnosticRelay.Proofs.LineGrammar.Location
import DiagnosticRelay.Proofs.StructuredReport.Outcome

/-!
# Diagnostics as the readers leave them

A reader changes what a checker reports: it resolves the path, and it converts digits to integers.
Every diagnostic that is read shows this, whichever reader it comes from: its file is resolved, and
its integers have no more digits than are converted (`CapturedOutput.isRead_of_diagnostics`).

For lines of text the integers come from digits that were converted; for records they are the
integers of a document, which come from digits as well, or numbers of the document that are cut off.

Where the directory of the checker is absolute, nothing of this is needed a second time: a resolved
file is in normal form then, and the diagnostic is settled.
-/

namespace DiagnosticRelay

/-- A diagnostic that was read: its file is a reference that was resolved in the directory, and its
integers have no more digits than are converted. -/
structure Diagnostic.IsRead (directory : Text) (diagnostic : Diagnostic) : Prop where
  file : ∃ reference, diagnostic.file = Path.resolve .posix directory reference
  code : ∀ z, diagnostic.code = some (.int z) → IsShort z
  range : ∀ range, diagnostic.range = some range → range.IsShort

/-- A diagnostic to which nothing more can be done: its file is in normal form, and its integers can
be written and converted again. -/
structure Diagnostic.IsSettled (diagnostic : Diagnostic) : Prop where
  file : Path.Posix.IsNormal diagnostic.file
  code : ∀ z, diagnostic.code = some (.int z) → IsShort z
  range : ∀ range, diagnostic.range = some range → range.IsShort

variable {directory : Text}

theorem Path.isNormal_resolve (hdirectory : Posix.isAbsolute directory = true) (reference : Text) :
    Posix.IsNormal (resolve .posix directory reference) :=
  Posix.isNormal_normalize (Posix.isAbsolute_join (Posix.isAbsolute_normalize hdirectory) _)

theorem Diagnostic.IsRead.isSettled {diagnostic : Diagnostic} (h : diagnostic.IsRead directory)
    (hdirectory : Path.Posix.isAbsolute directory = true) : diagnostic.IsSettled where
  file := by
    obtain ⟨reference, hfile⟩ := h.file
    rw [hfile]
    exact Path.isNormal_resolve hdirectory reference
  code := h.code
  range := h.range

/-! ## Lines -/

/-- A run of digits by their values. -/
def LineGrammar.AreDigits (run : List Nat) : Prop := ∀ d ∈ run, d < 10

namespace LineRule

open LineGrammar

/-- **What a rule takes out of a line are digits**, because a rule cuts the line at runs of them. -/
theorem areDigits_of_runs? {rule : LineRule} {line : Text} {runs : List (List Nat)}
    (h : rule.runs? line = some runs) : ∀ run ∈ runs, AreDigits run := by
  have hdigits (t : Text) : AreDigits (Decimal.leadingDigits t) :=
    fun _ => Decimal.lt_of_mem_leadingDigits
  cases rule with
  | locationWithColumn | locationWithoutColumn =>
    obtain ⟨location, hlocation, rfl⟩ := Option.map_eq_some_iff.mp h
    obtain ⟨cut, -, -, -, -, -, message, -, rfl⟩ :=
      LocationCut.location?_eq_some_iff.mp hlocation
    refine List.forall_mem_cons.mpr ⟨hdigits cut.row, fun run hrun => ?_⟩
    obtain ⟨column, -, rfl⟩ := Option.map_eq_some_iff.mp (Option.mem_toList.mp hrun)
    exact hdigits column
  | stackFrame =>
    obtain ⟨frame, hframe, rfl⟩ := Option.map_eq_some_iff.mp h
    obtain ⟨cut, -, rfl⟩ := FrameCut.exists_isFound hframe
    exact List.forall_mem_cons.mpr
      ⟨hdigits cut.row, List.forall_mem_singleton.mpr (hdigits cut.column)⟩

theorem isShort_of_coordinate {run : List Nat} (hrun : AreDigits run) {z : Int}
    (h : coordinate run = .ok z) : IsShort z := by
  rw [coordinate] at h
  split at h
  · next n hn =>
    cases h
    exact isShort_signed (lt_of_readDigits hrun hn) false
  · cases h

/-- A diagnostic with an open range is one that was read if its coordinates are short. -/
theorem isRead_of_point (reference message : Text) (severity : Severity) {row column : Int}
    (hrow : IsShort row) (hcolumn : IsShort column) :
    (⟨Path.resolve .posix directory reference, message, severity, none,
      some ⟨⟨row, column⟩, none⟩⟩ : Diagnostic).IsRead directory where
  file := ⟨reference, rfl⟩
  code := by
    rintro z ⟨⟩
  range := by
    rintro range ⟨⟩
    exact ⟨⟨hrow, hcolumn⟩, fun stop hstop => by cases hstop⟩

theorem isRead_of_ofLocation {location : Location}
    (hruns : ∀ run ∈ location.row :: location.column.toList, AreDigits run)
    {diagnostic : Diagnostic} (h : ofLocation directory location = .ok diagnostic) :
    diagnostic.IsRead directory := by
  obtain ⟨path, row, column, token, message⟩ := location
  obtain ⟨first, hfirst, h⟩ := bind_eq_ok.mp h
  have hrow := isShort_of_coordinate (hruns row (List.mem_cons_self ..)) hfirst
  cases column with
  | none =>
    cases h
    exact isRead_of_point path _ _ hrow isShort_one
  | some digits =>
    obtain ⟨second, hsecond, h⟩ := bind_eq_ok.mp h
    cases h
    have hdigits := hruns digits (List.mem_cons_of_mem _ (List.mem_singleton_self _))
    exact isRead_of_point path _ _ hrow (isShort_of_coordinate hdigits hsecond)

theorem isRead_of_ofFrame {frame : Frame}
    (hruns : ∀ run ∈ [frame.row, frame.column], AreDigits run) {diagnostic : Diagnostic}
    (h : ofFrame directory frame = .ok diagnostic) :
    diagnostic.IsRead directory := by
  obtain ⟨before, path, row, column, after⟩ := frame
  obtain ⟨hrow, hcolumn⟩ := List.forall_mem_cons.mp hruns
  obtain ⟨first, hfirst, h⟩ := bind_eq_ok.mp h
  obtain ⟨second, hsecond, h⟩ := bind_eq_ok.mp h
  cases h
  exact isRead_of_point path _ _ (isShort_of_coordinate hrow hfirst)
    (isShort_of_coordinate (List.forall_mem_singleton.mp hcolumn) hsecond)

theorem isRead_of_apply {rule : LineRule} {line : Text} {diagnostic : Diagnostic}
    (h : rule.apply directory line = .ok (some diagnostic)) : diagnostic.IsRead directory := by
  have hruns {runs : List (List Nat)} (heq : rule.runs? line = some runs) :
      ∀ run ∈ runs, AreDigits run := areDigits_of_runs? heq
  cases rule with
  | locationWithColumn | locationWithoutColumn =>
    rw [apply] at h
    split at h
    · next location hlocation =>
      obtain ⟨found, hfound, heq⟩ := map_eq_ok.mp h
      cases heq
      exact isRead_of_ofLocation (hruns (by rw [runs?, hlocation]; rfl)) hfound
    · cases h
  | stackFrame =>
    rw [apply] at h
    split at h
    · next frame hframe =>
      obtain ⟨found, hfound, heq⟩ := map_eq_ok.mp h
      cases heq
      exact isRead_of_ofFrame (hruns (by rw [runs?, hframe]; rfl)) hfound
    · cases h

/-- The rule that decides is one that fits. -/
theorem apply_of_firstOf {line : Text} {rules : List LineRule} {rule : LineRule}
    {diagnostic : Diagnostic}
    (h : firstOf directory line rules = .ok (some (rule, diagnostic))) :
    rule.apply directory line = .ok (some diagnostic) := by
  induction rules with
  | nil => cases h
  | cons first rules ih =>
    obtain ⟨found, hfound, h⟩ := bind_eq_ok.mp h
    cases found with
    | none => exact ih h
    | some found =>
      cases h
      exact hfound

end LineRule

namespace TextReport

theorem isRead_of_ofLines {lines : List Text} {found : List Diagnostic}
    (h : ofLines directory lines = .ok found) :
    ∀ diagnostic ∈ found, diagnostic.IsRead directory := by
  induction lines generalizing found with
  | nil =>
    cases h
    exact fun diagnostic hmem => absurd hmem List.not_mem_nil
  | cons line lines ih =>
    obtain ⟨first, hfirst, h⟩ := bind_eq_ok.mp h
    obtain ⟨others, hothers, h⟩ := bind_eq_ok.mp h
    cases h
    intro diagnostic hmem
    rcases List.mem_append.mp hmem with hmem | hmem
    · obtain ⟨⟨rule, decided⟩, rfl, rfl⟩ := Option.map_eq_some_iff.mp (Option.mem_toList.mp hmem)
      exact LineRule.isRead_of_apply (LineRule.apply_of_firstOf hfirst)
    · exact ih hothers diagnostic hmem

end TextReport

/-! ## Records -/

namespace StructuredReport

/-- A code that is an integer is one of the record. -/
theorem isShort_of_codeOf {value : Value} (hvalue : value.IsBounded) {z : Int}
    (h : codeOf value = .ok (some (.int z))) : IsShort z := by
  cases value with
  | int held =>
    cases h
    exact hvalue
  | null | float | str => cases h
  | bool | list | object | date =>
    -- these are written, and what is written is text
    simp only [codeOf] at h
    obtain ⟨t, -, heq⟩ := map_eq_ok.mp h
    cases heq

theorem isRead_of_diagnosticOf {record : Members} (hrecord : Value.AreBoundedMembers record)
    {diagnostic : Diagnostic} (h : diagnosticOf directory record = .ok (some diagnostic)) :
    diagnostic.IsRead directory := by
  rw [diagnosticOf] at h
  split at h
  · cases h
  · next reference _ _ =>
    obtain ⟨message, -, h⟩ := bind_eq_ok.mp h
    obtain ⟨severity, -, h⟩ := bind_eq_ok.mp h
    obtain ⟨code, hcode, h⟩ := bind_eq_ok.mp h
    obtain ⟨range, hrange, h⟩ := bind_eq_ok.mp h
    cases h
    refine ⟨⟨reference, rfl⟩, ?_, ?_⟩
    · rintro z rfl
      exact isShort_of_codeOf (Value.isBounded_get hrecord (text "code")) hcode
    · rintro found rfl
      exact Range.isShort_of_ofRecord hrecord hrange
  · cases h

theorem isRead_of_ofRecords {records : List Members}
    (hrecords : ∀ record ∈ records, Value.AreBoundedMembers record) {found : List Diagnostic}
    (h : ofRecords directory records = .ok found) :
    ∀ diagnostic ∈ found, diagnostic.IsRead directory := by
  induction records generalizing found with
  | nil =>
    cases h
    exact fun diagnostic hmem => absurd hmem List.not_mem_nil
  | cons record records ih =>
    obtain ⟨hrecord, hrecords⟩ := List.forall_mem_cons.mp hrecords
    obtain ⟨first, hfirst, h⟩ := bind_eq_ok.mp h
    obtain ⟨others, hothers, h⟩ := bind_eq_ok.mp h
    cases h
    intro diagnostic hmem
    rcases List.mem_append.mp hmem with hmem | hmem
    · rw [Option.mem_toList.mp hmem] at hfirst
      exact isRead_of_diagnosticOf hrecord hfirst
    · exact ih hrecords hothers diagnostic hmem

theorem isRead_of_diagnostics? {output : Text} {found : List Diagnostic}
    (h : diagnostics? directory output = .ok (some found)) :
    ∀ diagnostic ∈ found, diagnostic.IsRead directory := by
  obtain ⟨document, hread, hfound⟩ := diagnostics?_eq_some_iff.mp h
  exact isRead_of_ofRecords
    (areBoundedMembers_of_mem_records (Json.isBounded_of_read hread)) hfound

end StructuredReport

/-! ## Captured output -/

namespace CapturedOutput

theorem isRead_of_readText {output : Text} {found : List Diagnostic}
    (h : readText directory output = .ok found) :
    ∀ diagnostic ∈ found, diagnostic.IsRead directory := by
  rw [readText] at h
  cases hlines : TextReport.diagnostics directory output with
  | error fault =>
    rw [hlines] at h
    cases h
  | ok diagnostics =>
    rw [hlines] at h
    cases h
    exact TextReport.isRead_of_ofLines hlines

/-- **Whatever is read is resolved and short**, by whichever reader. -/
theorem isRead_of_diagnostics {format : InputFormat} {output : Text} {found : List Diagnostic}
    (h : diagnostics directory format output = .ok found) :
    ∀ diagnostic ∈ found, diagnostic.IsRead directory := by
  rw [diagnostics] at h
  split at h
  · exact isRead_of_readText h
  · split at h
    · split at h
      · cases h
      · next structured hstructured =>
        cases h
        exact StructuredReport.isRead_of_diagnostics? hstructured
      · split at h
        · cases h
        · exact isRead_of_readText h
    · exact isRead_of_readText h

/-- Whatever is read in an absolute directory is settled. -/
theorem isSettled_of_diagnostics (hdirectory : Path.Posix.isAbsolute directory = true)
    {format : InputFormat} {output : Text} {found : List Diagnostic}
    (h : diagnostics directory format output = .ok found) :
    ∀ diagnostic ∈ found, diagnostic.IsSettled :=
  fun diagnostic hmem => (isRead_of_diagnostics h diagnostic hmem).isSettled hdirectory

end CapturedOutput

end DiagnosticRelay
