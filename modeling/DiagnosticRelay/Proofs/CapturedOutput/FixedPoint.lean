import DiagnosticRelay.CommandLine.Parse
import DiagnosticRelay.Proofs.CapturedOutput.Settled
import DiagnosticRelay.Proofs.Json.RoundTrip
import DiagnosticRelay.Proofs.Path.JoinedHalves

/-!
# Diagnostics that are printed and read again

The parse command prints the diagnostics that it has read as a document of records, and such a
document is structured output itself.  So it can be read again, from any directory, and what is read
is what was printed: settled diagnostics are a fixed point of reading.

There is one exception, and it lies in the document and not in the reader.  The document is written
in UTF-16 units, and two halves of a surrogate pair that stand together by accident cannot be told
from the code point of the pair.  `Diagnostic.joined` is what becomes of a diagnostic, and it is the
diagnostic itself exactly if no text of it has such halves.

The proof has three parts.  The value of a settled diagnostic can be written (`isWritable_toValue`),
so there is a document, and it is read as the values with their halves joined; these are the values
of the joined diagnostics (`joined_toValue`); and a diagnostic in normal form is read off its own
value (`diagnosticOf_toValue`).
-/

namespace DiagnosticRelay

open Text (joinHalves)

/-! ## Diagnostics with halves joined -/

namespace Code

/-- A code with the halves of its text joined. -/
def joined : Code → Code
  | .str s => .str (joinHalves s)
  | code => code

end Code

namespace Diagnostic

/-- A diagnostic with the halves in its texts joined. -/
def joined (diagnostic : Diagnostic) : Diagnostic where
  file := joinHalves diagnostic.file
  message := joinHalves diagnostic.message
  severity := diagnostic.severity
  code := diagnostic.code.map Code.joined
  range := diagnostic.range

/-- Some text of a diagnostic has the first half of a pair directly before a second half. -/
def HasPair (diagnostic : Diagnostic) : Prop :=
  Text.HasPair diagnostic.file ∨ Text.HasPair diagnostic.message ∨
    ∃ s, diagnostic.code = some (.str s) ∧ Text.HasPair s

theorem map_joined_code_eq_iff {code : Option Code} :
    code.map Code.joined = code ↔ ¬∃ s, code = some (.str s) ∧ Text.HasPair s := by
  cases code with
  | none => simp
  | some code =>
    cases code with
    | str s => simp [Code.joined, Text.joinHalves_eq_self_iff]
    | int | float => simp [Code.joined]

/-- **A diagnostic stays as it is exactly if none of its texts has a pair.** -/
theorem joined_eq_self_iff {diagnostic : Diagnostic} :
    diagnostic.joined = diagnostic ↔ ¬diagnostic.HasPair := by
  obtain ⟨file, message, severity, code, range⟩ := diagnostic
  simp only [joined, HasPair, mk.injEq, and_true, true_and, not_or, Text.joinHalves_eq_self_iff,
    map_joined_code_eq_iff]

end Diagnostic

/-! ## Values of diagnostics -/

theorem Position.isWritable_toValue {position : Position} (h : position.IsShort) (depth : Nat) :
    position.toValue.IsWritable (depth + 1) :=
  ⟨depth, rfl, show [text "line", text "column"].Nodup by decide, h.line, h.column, trivial⟩

theorem Range.isWritable_toValue {range : Range} (h : range.IsShort) (depth : Nat) :
    range.toValue.IsWritable (depth + 2) := by
  obtain ⟨start, stop⟩ := range
  refine ⟨depth + 1, rfl, show [text "start", text "end"].Nodup by decide,
    Position.isWritable_toValue h.start depth, ?_, trivial⟩
  cases stop with
  | none => trivial
  | some stop => exact Position.isWritable_toValue (h.stop stop rfl) depth

theorem Position.joined_toValue (position : Position) :
    position.toValue.joined = position.toValue := rfl

theorem Range.joined_toValue (range : Range) : range.toValue.joined = range.toValue := by
  obtain ⟨start, stop⟩ := range
  cases stop <;> rfl

theorem Code.joined_value (code : Code) : code.value.joined = code.joined.value := by
  cases code <;> rfl

theorem Severity.joinHalves_name (severity : Severity) :
    joinHalves severity.name = severity.name := by
  cases severity <;> rfl

namespace Diagnostic

/-- The value of a settled diagnostic can be written. -/
theorem isWritable_toValue {diagnostic : Diagnostic} (h : diagnostic.IsSettled)
    (hcode : ∀ x, diagnostic.code ≠ some (.float x)) (depth : Nat) :
    diagnostic.toValue.IsWritable (depth + 3) := by
  refine ⟨depth + 2, rfl, show [text "file", text "message", text "severity", text "code",
    text "range"].Nodup by decide, trivial, trivial, trivial, ?_, ?_, trivial⟩
  · cases hheld : diagnostic.code with
    | none => trivial
    | some code =>
      cases code with
      | str s => trivial
      | int z => exact h.code z hheld
      | float x => exact absurd hheld (hcode x)
  · cases hheld : diagnostic.range with
    | none => trivial
    | some range => exact Range.isWritable_toValue (h.range range hheld) depth

/-- Joining the halves of a value and joining those of its diagnostic is the same. -/
theorem joined_toValue (diagnostic : Diagnostic) :
    diagnostic.toValue.joined = diagnostic.joined.toValue := by
  obtain ⟨file, message, severity, code, range⟩ := diagnostic
  have hcode : (Value.ofOption Code.value code).joined
      = .ofOption Code.value (code.map Code.joined) := by
    cases code with
    | none => rfl
    | some code => exact code.joined_value
  have hrange : (Value.ofOption Range.toValue range).joined = .ofOption Range.toValue range := by
    cases range with
    | none => rfl
    | some range => exact range.joined_toValue
  simp only [toValue, joined, Value.joined, Value.joinedMembers, hcode, hrange,
    Severity.joinHalves_name]
  rfl

end Diagnostic

/-! ## Reading a diagnostic off its value -/

theorem Range.ofRecord_toValue (diagnostic : Diagnostic) :
    Range.ofRecord diagnostic.toValue.members = .ok diagnostic.range := by
  obtain ⟨file, message, severity, code, range⟩ := diagnostic
  cases range with
  | none => rfl
  | some range =>
    obtain ⟨start, stop⟩ := range
    cases stop <;> rfl

theorem Severity.ofValue_name (severity : Severity) :
    Severity.ofValue (.str severity.name) = .ok severity := by
  cases severity <;> rfl

namespace StructuredReport

theorem codeOf_ofOption (code : Option Code) :
    codeOf (.ofOption Code.value code) = .ok code := by
  cases code with
  | none => rfl
  | some code => cases code <;> rfl

/-- **A diagnostic is read off its own value**, from any directory. -/
theorem diagnosticOf_toValue {diagnostic : Diagnostic} (h : Path.Posix.IsNormal diagnostic.file)
    (directory : Text) :
    diagnosticOf directory diagnostic.toValue.members = .ok (some diagnostic) := by
  have hresolve := (Path.isKey_of_isNormal h).resolve directory
  have hrange := Range.ofRecord_toValue diagnostic
  have hcode := codeOf_ofOption diagnostic.code
  have hseverity := Severity.ofValue_name diagnostic.severity
  obtain ⟨rest, hfile⟩ :=
    Path.Posix.exists_cons_of_isAbsolute (Path.Posix.isAbsolute_of_isNormal h)
  have hget : Members.get diagnostic.toValue.members (text "file")
      = .str (Path.Posix.slash :: rest) := congrArg Value.str hfile
  rw [hfile] at hresolve
  have hmessage : messageOf diagnostic.toValue.members = .ok diagnostic.message := rfl
  have hgetSeverity : Members.get diagnostic.toValue.members (text "severity")
      = .str diagnostic.severity.name := rfl
  have hgetCode : Members.get diagnostic.toValue.members (text "code")
      = .ofOption Code.value diagnostic.code := rfl
  simp only [diagnosticOf, hget, hmessage, hgetSeverity, hseverity, hgetCode, hcode, hrange,
    hresolve]
  rw [← hfile]
  rfl

theorem records_toValue (found : List Diagnostic) :
    records (.list (found.map Diagnostic.toValue))
      = found.map fun diagnostic => diagnostic.toValue.members :=
  Value.objects_map_object (fun diagnostic : Diagnostic => diagnostic.toValue.members) found

theorem ofRecords_toValue {found : List Diagnostic}
    (h : ∀ diagnostic ∈ found, Path.Posix.IsNormal diagnostic.file) (directory : Text) :
    ofRecords directory (found.map fun diagnostic => diagnostic.toValue.members) = .ok found := by
  induction found with
  | nil => rfl
  | cons diagnostic rest ih =>
    obtain ⟨hfirst, hrest⟩ := List.forall_mem_cons.mp h
    rw [List.map_cons, ofRecords, diagnosticOf_toValue hfirst, ih hrest]
    rfl

end StructuredReport

/-! ## Documents of diagnostics -/

namespace CommandLine

namespace ParseCommand

open StructuredReport

variable {found : List Diagnostic}

theorem areWritable_toValue (h : ∀ diagnostic ∈ found, diagnostic.IsSettled)
    (hcode : ∀ diagnostic ∈ found, ∀ x, diagnostic.code ≠ some (.float x)) (depth : Nat) :
    Value.AreWritable (found.map Diagnostic.toValue) (depth + 3) := by
  induction found with
  | nil => trivial
  | cons diagnostic rest ih =>
    obtain ⟨hfirst, hrest⟩ := List.forall_mem_cons.mp h
    obtain ⟨hfirstCode, hrestCode⟩ := List.forall_mem_cons.mp hcode
    exact ⟨Diagnostic.isWritable_toValue hfirst hfirstCode depth, ih hrest hrestCode⟩

theorem joinedItems_toValue (found : List Diagnostic) :
    Value.joinedItems (found.map Diagnostic.toValue)
      = (found.map Diagnostic.joined).map Diagnostic.toValue := by
  induction found with
  | nil => rfl
  | cons diagnostic rest ih =>
    rw [List.map_cons, Value.joinedItems, ih, diagnostic.joined_toValue]
    rfl

/-- A document of settled diagnostics is written, and read. -/
theorem read_document (h : ∀ diagnostic ∈ found, diagnostic.IsSettled)
    (hcode : ∀ diagnostic ∈ found, ∀ x, diagnostic.code ≠ some (.float x)) :
    ∃ printed, document found = .ok printed ∧
      Json.read printed
        = .ok (.list ((found.map Diagnostic.joined).map Diagnostic.toValue)) := by
  have hwritable : (Value.list (found.map Diagnostic.toValue)).IsWritable Json.depthLimit :=
    -- a list of objects, in them a range, in that a position
    ⟨_, rfl, areWritable_toValue h hcode (Json.depthLimit - 4)⟩
  obtain ⟨hreadable, -⟩ := @Json.reread_of_isWritable .finite _ _ hwritable
  refine ⟨_, Json.document_eq hreadable, ?_⟩
  rw [Json.read_writeDocument hwritable, Value.joined, joinedItems_toValue]

theorem diagnostics?_of_read (h : ∀ diagnostic ∈ found, Path.Posix.IsNormal diagnostic.file)
    {output : Text} (hread : Json.read output = .ok (.list (found.map Diagnostic.toValue)))
    (directory : Text) : diagnostics? directory output = .ok (some found) := by
  refine diagnostics?_eq_some_iff.mpr ⟨_, hread, ?_⟩
  rw [ofValue, records_toValue, ofRecords_toValue h]

/-- **What is printed is read again.**  The document of the diagnostics that were read is JSON, and
from any directory it gives the same diagnostics, in order, with the halves in their texts
joined; so it gives just the same diagnostics exactly if none of them has a text with a pair. -/
theorem diagnostics?_document {directory : Text}
    (hdirectory : Path.Posix.isAbsolute directory = true) {format : InputFormat} {output : Text}
    (hfound : CapturedOutput.diagnostics directory format output = .ok found)
    (hcode : ∀ diagnostic ∈ found, ∀ x, diagnostic.code ≠ some (.float x)) (other : Text) :
    ∃ printed, document found = .ok printed ∧
      (∃ value, Json.read printed = .ok value) ∧
      diagnostics? other printed = .ok (some (found.map Diagnostic.joined)) ∧
      (diagnostics? other printed = .ok (some found) ↔
        ∀ diagnostic ∈ found, ¬diagnostic.HasPair) := by
  have hsettled := CapturedOutput.isSettled_of_diagnostics hdirectory hfound
  obtain ⟨printed, hprinted, hread⟩ := read_document hsettled hcode
  have hnormal : ∀ diagnostic ∈ found.map Diagnostic.joined,
      Path.Posix.IsNormal diagnostic.file := by
    intro joined hjoined
    obtain ⟨diagnostic, hmem, rfl⟩ := List.mem_map.mp hjoined
    exact Path.Posix.isNormal_joinHalves (hsettled diagnostic hmem).file
  have hagain := diagnostics?_of_read hnormal hread other
  have hsame := List.map_inj_left (l := found) (f := Diagnostic.joined) (g := id)
  rw [List.map_id] at hsame
  refine ⟨printed, hprinted, ⟨_, hread⟩, hagain, ?_⟩
  rw [hagain, Except.ok.injEq, Option.some.injEq, hsame]
  exact forall₂_congr fun diagnostic _ => Diagnostic.joined_eq_self_iff

/-- A report on two files: an end that is null, a code point in halves, a lone half, a code that is
neither a number nor text, and an end whose line is missing. -/
def mixedReport : Text :=
  text "[\x7b\"file\": \"../src//a.c\", \"message\": \"\\\"\\ud83d\\udc80\\\"\\ud83d\", " ++
  text "\"severity\": \"ERROR\", \"code\": -12, " ++
  text "\"range\": \x7b\"start\": \x7b\"line\": \"7x\"\x7d, \"end\": null\x7d\x7d, " ++
  text "\x7b\"file\": \"b.c\", \"code\": [1, \"x\"], " ++
  text "\"range\": \x7b\"start\": \x7b\"line\": 2\x7d, \"end\": \x7b\"column\": 4\x7d\x7d\x7d]"

/-- The diagnostics of the report. -/
def mixedDiagnostics : List Diagnostic := [
  ⟨text "/src/a.c", text "\"💀\"" ++ [.surrogate 0x3D], .error, some (.int (-12)),
    some ⟨⟨7, 1⟩, none⟩⟩,
  ⟨text "/p/b.c", [], .info, some (.str (text "[1, \"x\"]")), some ⟨⟨2, 1⟩, some ⟨2, 4⟩⟩⟩]

/-- The diagnostics of the report, printed and read again from elsewhere. -/
theorem diagnostics?_document_mixed :
    Path.Posix.isAbsolute (text "/p") = true ∧
      CapturedOutput.diagnostics (text "/p") .auto mixedReport = .ok mixedDiagnostics ∧
      (∀ diagnostic ∈ mixedDiagnostics, ∀ x, diagnostic.code ≠ some (.float x)) ∧
      ∃ printed, document mixedDiagnostics = .ok printed ∧
        (∃ value, Json.read printed = .ok value) ∧
        diagnostics? (text "q") printed = .ok (some (mixedDiagnostics.map Diagnostic.joined)) ∧
        (diagnostics? (text "q") printed = .ok (some mixedDiagnostics) ↔
          ∀ diagnostic ∈ mixedDiagnostics, ¬diagnostic.HasPair) := by
  have hfound : CapturedOutput.diagnostics (text "/p") .auto mixedReport
      = .ok mixedDiagnostics := by
    decide +kernel
  have hcode : ∀ diagnostic ∈ mixedDiagnostics, ∀ x, diagnostic.code ≠ some (.float x) := by
    simp [mixedDiagnostics]
  exact ⟨rfl, hfound, hcode, diagnostics?_document rfl hfound hcode (text "q")⟩

/-- A report with a message in which an escaped first half stands before a second half. -/
def halvesReport : Text :=
  text "[\x7b\"file\": \"/a.c\", \"message\": \"\\ud83d" ++ .surrogate 0x480 :: text "\"\x7d]"

/-- A diagnostic that is not read as it was printed: its message has two halves that are joined. -/
theorem diagnostics?_document_halves :
    Path.Posix.isAbsolute (text "/") = true ∧
      ∃ found, CapturedOutput.diagnostics (text "/") .json halvesReport = .ok found ∧
        (∀ diagnostic ∈ found, ∀ x, diagnostic.code ≠ some (.float x)) ∧
        ∃ printed, document found = .ok printed ∧
          diagnostics? (text "/") printed ≠ .ok (some found) :=
  ⟨rfl, [⟨text "/a.c", [.surrogate 0x3D, .surrogate 0x480], .info, none, none⟩],
    by decide +kernel, by simp, _, rfl, by decide +kernel⟩

end ParseCommand

end CommandLine

end DiagnosticRelay
