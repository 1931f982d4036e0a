import DiagnosticRelay.Proofs.StructuredReport.KeyOrder
import DiagnosticRelay.Proofs.Value.Bounded

/-!
# Message, level and code of a record

A record may have anything as its message, its level and its code, and nothing of it is wrong.  But
what is not text is written out, and so these three can fail: on an integer that is too long to be
written.  The integers of a record that was read are short, since they had to be converted.  Hence
such a record fails on its coordinates or not at all (`diagnosticOf_eq_map`).
-/

namespace DiagnosticRelay

open Value (areShortMembers_iff)

theorem Value.writtenWhen_toText? (value : Value) :
    WrittenWhen value.toText? (value.isShort = true) := by
  cases value with
  | null => exact (WrittenWhen.ok _).congr (iff_of_true trivial rfl)
  | bool | int | float | str | list | object | date => exact (writtenWhen_display _).map some

theorem Severity.writtenWhen_ofValue (value : Value) :
    WrittenWhen (ofValue value) (value.isShort = true) := by
  cases value with
  | null => exact (WrittenWhen.ok _).congr (iff_of_true trivial rfl)
  | bool | int | float | str | list | object | date => exact (Value.writtenWhen_display _).map _

namespace Json

mutual

/-- Sorting keys changes none of the integers. -/
theorem isShort_sortKeys : ∀ value : Value, (sortKeys value).isShort = value.isShort
  | .list items => areShort_sortKeysItems items
  | .object members => by
    have hsorted : Value.areShortMembers
        ((sortKeysMembers members).mergeSort fun a b => Text.le a.1 b.1)
          = Value.areShortMembers (sortKeysMembers members) := by
      rw [Bool.eq_iff_iff, areShortMembers_iff, areShortMembers_iff]
      simp only [List.mem_mergeSort]
    rw [sortKeys, Value.isShort, hsorted, areShortMembers_sortKeysMembers, Value.isShort]
  | .null | .bool _ | .int _ | .float _ | .str _ | .date _ => rfl

theorem areShort_sortKeysItems :
    ∀ items : List Value, Value.areShort (sortKeysItems items) = Value.areShort items
  | [] => rfl
  | item :: items => by
    rw [sortKeysItems, Value.areShort, isShort_sortKeys item, areShort_sortKeysItems items,
      Value.areShort]

theorem areShortMembers_sortKeysMembers : ∀ members : List (Text × Value),
    Value.areShortMembers (sortKeysMembers members) = Value.areShortMembers members
  | [] => rfl
  | (key, value) :: members => by
    rw [sortKeysMembers, Value.areShortMembers, isShort_sortKeys value,
      areShortMembers_sortKeysMembers members, Value.areShortMembers]

end

end Json

namespace StructuredReport

variable {record : Members}

theorem exists_codeOf {value : Value} (h : value.isShort = true) :
    ∃ code, codeOf value = .ok code := by
  have hline : ∃ t, Json.line (Json.sortKeys value) = .ok t :=
    (Value.writtenWhen_written _ _).ok_iff.mpr ((Json.isShort_sortKeys value).trans h)
  obtain ⟨t, ht⟩ := hline
  cases value with
  | null | str | int | float => exact ⟨_, rfl⟩
  | bool | list | object | date =>
    exact ⟨some (.str t), congrArg (Except.map fun shown => some (Code.str shown)) ht⟩

theorem exists_messageOf (h : Value.AreBoundedMembers record) :
    ∃ message, messageOf record = .ok message := by
  have heffective : (effectiveMessage record).IsBounded := by
    rw [effectiveMessage]
    split
    · exact Value.isBounded_get h _
    · exact Value.isBounded_get h _
  obtain ⟨shown, hshown⟩ := (Value.writtenWhen_toText? _).ok_iff.mpr
    (Value.isShort_of_isBounded heffective)
  exact ⟨_, (messageOf_eq record).trans (map_eq_ok.mpr ⟨shown, hshown, rfl⟩)⟩

/-- **A record that was read fails on its coordinates or not at all.** -/
theorem diagnosticOf_eq_map (directory : Text) (h : Value.AreBoundedMembers record)
    {c : CodePoint} {rest : Text} (hfile : Members.get record (text "file") = .str (c :: rest)) :
    ∃ message severity code,
      diagnosticOf directory record = (Range.ofRecord record).map fun range =>
        some ⟨Path.resolve .posix directory (c :: rest), message, severity, code, range⟩ := by
  obtain ⟨message, hmessage⟩ := exists_messageOf h
  obtain ⟨severity, hseverity⟩ := (Severity.writtenWhen_ofValue _).ok_iff.mpr
    (Value.isShort_of_isBounded (Value.isBounded_get h (text "severity")))
  obtain ⟨code, hcode⟩ := exists_codeOf
    (Value.isShort_of_isBounded (Value.isBounded_get h (text "code")))
  refine ⟨message, severity, code, ?_⟩
  rw [diagnosticOf, hfile]
  simp only [hmessage, hseverity, hcode]
  cases Range.ofRecord record <;> rfl

end StructuredReport

end DiagnosticRelay
