import DiagnosticRelay.Proofs.Json.Answer
import DiagnosticRelay.Proofs.Value.Overlong

/-!
# The three outcomes of structured output

Structured output is not JSON, or gives diagnostics, or fails.  Which of the three it is depends on
what the JSON reader says of the text.

* A document that is read gives the diagnostics of its records, and fails with them.
* A text that is refused is not JSON, with one exception.
* A text that is refused for the number of digits of an integer is a failure, although the reader
  has no document either.
-/

namespace DiagnosticRelay

namespace StructuredReport

variable {directory output : Text}

theorem decode?_eq_some_iff (output : Text) (document : Value) :
    decode? output = .ok (some document) ↔ Json.read output = .ok document := by
  rw [decode?]
  split
  · next value h => simp [h]
  · next digits h => simp [h]
  · next failure _ h => simp [h]

theorem decode?_eq_none_iff (output : Text) :
    decode? output = .ok none ↔
      ∃ failure, Json.read output = .error failure ∧ ∀ n, failure ≠ .tooManyDigits n := by
  rw [decode?]
  split
  · next value h => simp [h]
  · next digits h => simp [h]
  · next failure hdigits h => simpa [h] using hdigits

theorem decode?_overflows (output : Text) :
    OverflowsWhen (decode? output) (∃ n, Json.read output = .error (.tooManyDigits n)) := by
  rw [decode?]
  split
  · next document h => exact (OverflowsWhen.ok _).congr (by simp [h])
  · next digits h =>
    exact (OverflowsWhen.error (Json.limit_lt_of_read_eq_tooManyDigits h)).congr (by simp [h])
  · next failure hdigits h =>
    refine (OverflowsWhen.ok none).congr (iff_of_false id ?_)
    rintro ⟨n, hn⟩
    exact hdigits n (Except.error.inj (h.symm.trans hn))

/-- Diagnostics come from a document. -/
theorem diagnostics?_eq_some_iff {found : List Diagnostic} :
    diagnostics? directory output = .ok (some found) ↔
      ∃ document, Json.read output = .ok document ∧ ofValue directory document = .ok found := by
  rw [diagnostics?, bind_eq_ok]
  constructor
  · rintro ⟨decoded | document, hdecoded, h⟩
    · cases h
    · obtain ⟨others, hfound, h⟩ := bind_eq_ok.mp h
      cases h
      exact ⟨document, (decode?_eq_some_iff output document).mp hdecoded, hfound⟩
  · rintro ⟨document, hread, hfound⟩
    exact ⟨some document, (decode?_eq_some_iff output document).mpr hread,
      bind_eq_ok.mpr ⟨found, hfound, rfl⟩⟩

/-- The answer that output is not JSON comes from the reader alone. -/
theorem diagnostics?_eq_none_iff :
    diagnostics? directory output = .ok none ↔
      ∃ failure, Json.read output = .error failure ∧ ∀ n, failure ≠ .tooManyDigits n := by
  rw [← decode?_eq_none_iff, diagnostics?, bind_eq_ok]
  constructor
  · rintro ⟨decoded | document, hdecoded, h⟩
    · exact hdecoded
    · obtain ⟨others, -, h⟩ := bind_eq_ok.mp h
      cases h
  · exact fun hdecoded => ⟨none, hdecoded, rfl⟩

/-- A failure comes from the reader or from a record. -/
theorem diagnostics?_eq_error_iff :
    (∃ fault, diagnostics? directory output = .error fault) ↔
      (∃ n, Json.read output = .error (.tooManyDigits n)) ∨
        ∃ document, Json.read output = .ok document ∧
          ∃ fault, ofValue directory document = .error fault := by
  rw [← (decode?_overflows output).error_iff, diagnostics?]
  simp only [← decode?_eq_some_iff]
  cases decode? output with
  | error fault => exact ⟨fun _ => Or.inl ⟨fault, rfl⟩, fun _ => ⟨fault, rfl⟩⟩
  | ok decoded =>
    cases decoded with
    | none => simp [bind, Except.bind, pure, Except.pure]
    | some document =>
      cases h : ofValue directory document <;> simp [bind, Except.bind, pure, Except.pure, h]

/-- Output that opens like a report and holds a number with too many digits: as an integer of the
document, or as a coordinate of a record that names a file. -/
def IsOverlongReport (output : Text) : Prop :=
  (∃ n, Json.read output = .error (.tooManyDigits n)) ∨
    ∃ document, Json.read output = .ok document ∧
      ∃ record ∈ records document, IsOverlongRecord record

theorem areBoundedMembers_of_mem_records {document : Value} (h : document.IsBounded) :
    ∀ record ∈ records document, Value.AreBoundedMembers record := by
  cases document with
  | list items => exact fun record => Value.areBoundedMembers_of_mem_objects h
  | object members =>
    exact fun record => Value.areBoundedMembers_of_mem_objects (Value.isBounded_get h _)
  | null | bool | int | float | str | date => exact fun record hmem => by cases hmem

theorem diagnostics?_overflows (directory output : Text) :
    OverflowsWhen (diagnostics? directory output) (IsOverlongReport output) := by
  refine ((decode?_overflows output).bind
    (r := fun decoded => ∃ document, decoded = some document ∧
      ∃ record ∈ records document, IsOverlongRecord record) ?_).congr ?_
  · intro decoded hdecoded
    cases decoded with
    | none => exact (OverflowsWhen.ok none).congr (by simp)
    | some document =>
      have hbounded := Json.isBounded_of_read ((decode?_eq_some_iff output document).mp hdecoded)
      refine ((ofRecords_overflows directory
        (areBoundedMembers_of_mem_records hbounded)).bind_const fun found =>
          OverflowsWhen.ok _).congr ?_
      simp
  · refine or_congr_right ?_
    constructor
    · rintro ⟨_, hdecoded, document, rfl, hrecord⟩
      exact ⟨document, (decode?_eq_some_iff output document).mp hdecoded, hrecord⟩
    · rintro ⟨document, hread, hrecord⟩
      exact ⟨_, (decode?_eq_some_iff output document).mpr hread, document, rfl, hrecord⟩

end StructuredReport

end DiagnosticRelay
