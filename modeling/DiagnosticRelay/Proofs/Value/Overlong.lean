import DiagnosticRelay.Proofs.Fault.Overflow
import DiagnosticRelay.Proofs.StructuredReport.Written
import DiagnosticRelay.Proofs.Text.DecimalDigit

/-!
# Coordinates with too many digits

A coordinate of a record may be anything.  A number, a truth value, a list or a text that begins
with no number is tolerated; the one thing that is not is a text that begins with a number of more
than `Decimal.digitLimit` digits.  This module follows that single failure from a text through a
value, a position, a range and a record up to a list of records.

* `Text.IsOverlong` describes such a text by its parts: blanks, at most one sign, more digits
  than the limit, and anything after them.  `Text.HasDigits` is the same for any number of digits.
* `Range.coordinates` are the values of a record that are read as coordinates.  Which ones
  they are depends on the record: `range.start` and `range.end` win over the record's own `line`
  and `column`.
* `IsOverlongRecord` is a record that names a file and has an overlong coordinate.
  `ofRecords_overflows` says that the records of a report that was read fail exactly if one of them
  is of this kind.

A record without a file is passed over before its coordinates are looked at, so it does no harm.
-/

namespace DiagnosticRelay

/-! ## Texts and values -/

/-- Blanks, at most one sign, and then more decimal digits than are converted. -/
def Text.IsOverlong (t : Text) : Prop :=
  ∃ blanks sign digits rest, t = blanks ++ (sign ++ (digits ++ rest)) ∧
    (∀ c ∈ blanks, c.isBlank = true) ∧
    (sign = [] ∨ sign = [.char '+'] ∨ sign = [.char '-']) ∧
    (∀ c ∈ digits, c.isDecimal = true) ∧ Decimal.digitLimit < digits.length

/-- A text that is an overlong number. -/
def Value.IsOverlong (value : Value) : Prop := ∃ t, value = .str t ∧ t.IsOverlong

/-- A text after its blanks and at most one sign. -/
def unsigned (t : Text) : Text := (Decimal.takeSign (t.dropWhile CodePoint.isBlank)).2

/-- The sign at the head of a text is nothing, a plus or a minus. -/
theorem exists_sign (t : Text) : ∃ sign, t = sign ++ (Decimal.takeSign t).2 ∧
    (sign = [] ∨ sign = [.char '+'] ∨ sign = [.char '-']) := by
  unfold Decimal.takeSign
  split
  · exact ⟨[.char '-'], rfl, Or.inr (Or.inr rfl)⟩
  · exact ⟨[.char '+'], rfl, Or.inr (Or.inl rfl)⟩
  · exact ⟨[], rfl, Or.inl rfl⟩

/-- A text that begins with a digit has no sign. -/
theorem takeSign_cons_of_isDecimal {c : CodePoint} (h : c.isDecimal = true) (rest : Text) :
    Decimal.takeSign (c :: rest) = (false, c :: rest) := by
  unfold Decimal.takeSign
  split
  · next hc => exact absurd h (by rw [(List.cons.inj hc).1]; simp)
  · next hc => exact absurd h (by rw [(List.cons.inj hc).1]; simp)
  · rfl

/-- The integer written by the digits at the head of a text. -/
def integerOf (negative : Bool) (t : Text) : Except Fault (Option Int) :=
  match Decimal.leadingDigits t with
  | [] => .ok none
  | digits =>
    match Decimal.readDigits digits with
    | .ok n => .ok (some (Decimal.signed negative n))
    | .error count => .error (.tooManyDigits count)

theorem leadingInteger?_eq (t : Text) : leadingInteger? t
    = integerOf (Decimal.takeSign (t.dropWhile CodePoint.isBlank)).1 (unsigned t) := rfl

theorem integerOf_overflows (negative : Bool) (t : Text) :
    OverflowsWhen (integerOf negative t)
      (Decimal.digitLimit < (Decimal.leadingDigits t).length) := by
  rw [integerOf]
  cases hdigits : Decimal.leadingDigits t with
  | nil => exact (OverflowsWhen.ok none).congr (by simp)
  | cons d digits =>
    exact OverflowsWhen.readDigits (fun n => some (Decimal.signed negative n)) (d :: digits)

/-- Blanks, at most one sign, and then more decimal digits than a given number. -/
def Text.HasDigits (n : Nat) (t : Text) : Prop :=
  ∃ blanks sign digits rest, t = blanks ++ (sign ++ (digits ++ rest)) ∧
    (∀ c ∈ blanks, c.isBlank = true) ∧
    (sign = [] ∨ sign = [.char '+'] ∨ sign = [.char '-']) ∧
    (∀ c ∈ digits, c.isDecimal = true) ∧ n < digits.length

theorem Text.hasDigits_digitLimit_iff (t : Text) :
    t.HasDigits Decimal.digitLimit ↔ t.IsOverlong := Iff.rfl

/-- The digits after the blanks and the sign are those of the description. -/
theorem lt_length_unsigned_iff (t : Text) (n : Nat) :
    n < (Decimal.leadingDigits (unsigned t)).length ↔ t.HasDigits n := by
  rw [Decimal.lt_length_leadingDigits_iff]
  constructor
  · rintro ⟨digits, rest, hsplit, hdigits, hlength⟩
    obtain ⟨sign, hinked, hsign⟩ := exists_sign (t.dropWhile CodePoint.isBlank)
    refine ⟨t.takeWhile CodePoint.isBlank, sign, digits, rest, ?_, ?_, hsign, hdigits, hlength⟩
    · rw [← hsplit, unsigned, ← hinked, List.takeWhile_append_dropWhile]
    · exact fun c hc => List.all_eq_true.mp List.all_takeWhile c hc
  · rintro ⟨blanks, sign, digits, rest, rfl, hblanks, hsign, hdigits, hlength⟩
    refine ⟨digits, rest, ?_, hdigits, hlength⟩
    obtain ⟨d, digits, rfl⟩ : ∃ d more, digits = d :: more := by
      cases digits with
      | nil => exact absurd hlength (Nat.not_lt_zero n)
      | cons d more => exact ⟨d, more, rfl⟩
    have hd : d.isDecimal = true := hdigits d (List.mem_cons_self ..)
    rw [unsigned, List.dropWhile_append_of_pos hblanks]
    rcases hsign with rfl | rfl | rfl
    · rw [List.nil_append, List.cons_append,
        List.dropWhile_cons_of_neg (by simp [CodePoint.isBlank_of_isDecimal hd]),
        takeSign_cons_of_isDecimal hd]
    · rfl
    · rfl

theorem leadingInteger?_of_not_hasDigits {t : Text} (h : ¬t.HasDigits 0) :
    leadingInteger? t = .ok none := by
  rw [← lt_length_unsigned_iff, Nat.pos_iff_ne_zero, not_not, List.length_eq_zero_iff] at h
  rw [leadingInteger?_eq, integerOf, h]

theorem leadingInteger?_overflows (t : Text) : OverflowsWhen (leadingInteger? t) t.IsOverlong := by
  rw [leadingInteger?_eq]
  exact (integerOf_overflows _ _).congr
    ((lt_length_unsigned_iff t _).trans t.hasDigits_digitLimit_iff)

theorem Value.toIntOr_overflows (default : Int) (value : Value) :
    OverflowsWhen (value.toIntOr default) value.IsOverlong := by
  cases value with
  | str t =>
    refine ((leadingInteger?_overflows t).map fun found => found.getD default).congr ?_
    exact ⟨fun h => ⟨t, rfl, h⟩, fun ⟨s, hs, h⟩ => Value.str.inj hs ▸ h⟩
  | null | bool | int | float | list | object | date =>
    refine (OverflowsWhen.ok _).congr (iff_of_false id ?_)
    rintro ⟨t, h, -⟩
    cases h

/-! ## Positions and ranges -/

theorem Position.ofValues_overflows (line column : Value) (defaultLine defaultColumn : Int) :
    OverflowsWhen (Position.ofValues line column defaultLine defaultColumn)
      (line.IsOverlong ∨ column.IsOverlong) := by
  refine (line.toIntOr_overflows defaultLine).bind_const fun first => ?_
  refine ((column.toIntOr_overflows defaultColumn).bind_const fun second =>
    OverflowsWhen.ok _).congr ?_
  simp

/-- The two values of an object that are read as a position. -/
def Position.coordinates (position : Members) : List Value :=
  [Members.get position (text "line"), Members.get position (text "column")]

/-- The values of a record that are read as coordinates: those of `range.start` and `range.end` if
there is a start, else those of the record itself. -/
def Range.coordinates (record : Members) : List Value :=
  let nested := (Members.get record (text "range")).members
  match Members.get nested (text "start") with
  | .object start => Position.coordinates start
      ++ match Members.get nested (text "end") with
        | .object stop => Position.coordinates stop
        | _ => []
  | _ => Position.coordinates record

theorem exists_mem_coordinates_iff (position : Members) :
    (∃ value ∈ Position.coordinates position, value.IsOverlong) ↔
      (Members.get position (text "line")).IsOverlong ∨
        (Members.get position (text "column")).IsOverlong := by
  simp [Position.coordinates]

/-- A range between a given start and perhaps an end. -/
theorem Range.ofBounds_overflows {bounds start : Members}
    (hstart : Members.get bounds (text "start") = .object start) :
    OverflowsWhen (Range.ofBounds bounds)
      (∃ value ∈ Position.coordinates start
          ++ match Members.get bounds (text "end") with
            | .object stop => Position.coordinates stop
            | _ => [], value.IsOverlong) := by
  simp only [Range.ofBounds, hstart]
  cases Members.get bounds (text "end") with
  | object stop =>
    refine ((Position.ofValues_overflows _ _ _ _).bind_const fun first =>
      (Position.ofValues_overflows _ _ _ _).bind_const fun last => OverflowsWhen.ok _).congr ?_
    simp only [List.mem_append, or_and_right, exists_or, exists_mem_coordinates_iff, or_false]
  | null | bool | int | float | str | list | date =>
    refine ((Position.ofValues_overflows _ _ _ _).bind_const fun first =>
      OverflowsWhen.ok _).congr ?_
    rw [List.append_nil, exists_mem_coordinates_iff, or_false]

theorem Range.ofPoint_overflows (line column : Value) :
    OverflowsWhen (Range.ofPoint line column) (line.IsOverlong ∨ column.IsOverlong) := by
  refine ((Position.ofValues_overflows _ _ _ _).bind_const fun start =>
    OverflowsWhen.ok _).congr ?_
  rw [or_false]

theorem Range.ofRecord_overflows (record : Members) :
    OverflowsWhen (Range.ofRecord record)
      (∃ value ∈ Range.coordinates record, value.IsOverlong) := by
  simp only [Range.ofRecord, Range.coordinates]
  cases hstart : Members.get (Members.get record (text "range")).members (text "start") with
  | object start => exact Range.ofBounds_overflows hstart
  | null | bool | int | float | str | list | date =>
    simp only [Value.isObject, Bool.false_eq_true, if_false]
    rw [exists_mem_coordinates_iff]
    split
    · next hnull =>
      -- two missing coordinates are not converted at all
      refine (OverflowsWhen.ok none).congr (iff_of_false id ?_)
      rw [Bool.and_eq_true] at hnull
      rintro (⟨t, h, -⟩ | ⟨t, h, -⟩)
      · rw [h] at hnull
        exact absurd hnull.1 (by simp [Value.isNull])
      · rw [h] at hnull
        exact absurd hnull.2 (by simp [Value.isNull])
    · exact (Range.ofPoint_overflows _ _).map some

/-! ## Records and reports -/

namespace StructuredReport

/-- A record that names a file and has a coordinate with too many digits. -/
def IsOverlongRecord (record : Members) : Prop :=
  (∃ c rest, Members.get record (text "file") = .str (c :: rest)) ∧
    ∃ value ∈ Range.coordinates record, value.IsOverlong

/-- The message, the level and the code of a record that was read do no harm. -/
theorem diagnosticOf_overflows (directory : Text) {record : Members}
    (h : Value.AreBoundedMembers record) :
    OverflowsWhen (diagnosticOf directory record) (IsOverlongRecord record) := by
  unfold IsOverlongRecord
  cases hfile : Members.get record (text "file") with
  | str reference =>
    cases reference with
    | nil =>
      rw [diagnosticOf, hfile]
      exact (OverflowsWhen.ok none).congr (by simp)
    | cons c rest =>
      obtain ⟨message, severity, code, heq⟩ := diagnosticOf_eq_map directory h hfile
      rw [heq]
      refine ((Range.ofRecord_overflows record).map _).congr ?_
      exact ⟨fun h => ⟨⟨c, rest, rfl⟩, h⟩, fun h => h.2⟩
  | null | bool | int | float | list | object | date =>
    rw [diagnosticOf, hfile]
    exact (OverflowsWhen.ok none).congr (by simp)

/-- The records are read in order, and the first overlong one stops the reading. -/
theorem ofRecords_overflows (directory : Text) {records : List Members}
    (h : ∀ record ∈ records, Value.AreBoundedMembers record) :
    OverflowsWhen (ofRecords directory records) (∃ record ∈ records, IsOverlongRecord record) := by
  induction records with
  | nil => exact (OverflowsWhen.ok []).congr (by simp)
  | cons record rest ih =>
    obtain ⟨hrecord, hrest⟩ := List.forall_mem_cons.mp h
    refine ((diagnosticOf_overflows directory hrecord).bind_const fun found =>
      (ih hrest).bind_const fun others => OverflowsWhen.ok _).congr ?_
    simp only [or_false, List.mem_cons, exists_eq_or_imp]

end StructuredReport

end DiagnosticRelay
