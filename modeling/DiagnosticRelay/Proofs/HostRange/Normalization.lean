import DiagnosticRelay.HostRange
import DiagnosticRelay.Proofs.Value.Members
import DiagnosticRelay.Proofs.Value.Overlong
import Mathlib.Data.Prod.Lex

/-!
# Shown ranges are well formed

A checker may report any integers as a range: zeros, negative numbers, an end before the start, an
end that coincides with the start.  What is shown is a range all the same: nothing in it is negative
and it covers at least one character.

Positions are compared lines first, and with this order the rule has two cases.  A range whose end
can be used and is shown at another place than the start runs from the smaller to the larger of
the two places, so it does not matter which of them was called the end.  Every other range is the
one character at its start.  Clamping is what makes the second case larger than it looks: two
different positions can be shown at the same place, and a negative coordinate counts as used while a
zero does not.

The last part goes back to the record.  The coordinates of an end that carry no integer take those
of the start, so an end that has no others is the start once more, and it is shown like no end at
all.  The start itself may be unusable, or even fail to be read, without changing this.
-/

namespace DiagnosticRelay

/-! ## The order of positions -/

namespace HostPosition

/-- A position as a pair that is compared by its first part first. -/
def key (position : HostPosition) : ℤ ×ₗ ℤ := toLex (position.line, position.character)

theorem key_injective : Function.Injective key := by
  rintro ⟨line, character⟩ ⟨otherLine, otherCharacter⟩ h
  obtain ⟨rfl, rfl⟩ := Prod.mk.inj (toLex.injective h)
  rfl

instance : LinearOrder HostPosition := LinearOrder.lift' key key_injective

theorem lt_iff {a b : HostPosition} :
    a < b ↔ a.line < b.line ∨ a.line = b.line ∧ a.character < b.character :=
  Prod.Lex.toLex_lt_toLex

theorem before_iff {a b : HostPosition} : a.before b = true ↔ a < b := by
  rw [lt_iff]
  simp [before]

/-- Neither coordinate is negative. -/
structure IsNonneg (position : HostPosition) : Prop where
  line : 0 ≤ position.line
  character : 0 ≤ position.character

end HostPosition

theorem Position.isNonneg_toHost (position : Position) : position.toHost.IsNonneg :=
  ⟨le_max_left .., le_max_left ..⟩

theorem Position.isUsable_iff {position : Position} :
    position.isUsable = true ↔ position.line ≠ 0 ∧ position.column ≠ 0 := by
  simp [isUsable]

/-! ## Ranges between two positions -/

namespace HostRange

/-- A range that can be shown: counted from zero and not empty. -/
structure IsWellFormed (range : HostRange) : Prop where
  start : range.start.IsNonneg
  stop : range.stop.IsNonneg
  start_lt_stop : range.start < range.stop

theorem isWellFormed_character {start : HostPosition} (h : start.IsNonneg) :
    (character start).IsWellFormed where
  start := h
  stop := ⟨h.line, Int.le_add_one h.character⟩
  start_lt_stop := HostPosition.lt_iff.mpr (Or.inr ⟨rfl, Int.lt_succ start.character⟩)

theorem between_self (place : HostPosition) : between place place = character place := if_pos rfl

/-- Between two different places the range runs from the smaller to the larger one. -/
theorem between_of_ne {a b : HostPosition} (h : a ≠ b) : between a b = ⟨min a b, max a b⟩ := by
  rw [between, if_neg (Ne.symm h)]
  split
  · next hbefore =>
    have hle : b ≤ a := (HostPosition.before_iff.mp hbefore).le
    rw [min_eq_right hle, max_eq_left hle]
  · next hbefore =>
    have hle : a ≤ b := not_lt.mp (mt HostPosition.before_iff.mpr hbefore)
    rw [min_eq_left hle, max_eq_right hle]

theorem between_comm (a b : HostPosition) : between a b = between b a := by
  by_cases h : a = b
  · rw [h]
  · rw [between_of_ne h, between_of_ne (Ne.symm h), min_comm, max_comm]

theorem isWellFormed_between {a b : HostPosition} (ha : a.IsNonneg) (hb : b.IsNonneg) :
    (between a b).IsWellFormed := by
  by_cases h : a = b
  · rw [h, between_self]
    exact isWellFormed_character hb
  · rw [between_of_ne h]
    rcases lt_or_gt_of_ne h with hlt | hlt
    · rw [min_eq_left hlt.le, max_eq_right hlt.le]
      exact ⟨ha, hb, hlt⟩
    · rw [min_eq_right hlt.le, max_eq_left hlt.le]
      exact ⟨hb, ha, hlt⟩

/-! ## Shown ranges -/

/-- An end that can be used makes the range between the two places. -/
theorem ofRange?_of_isUsable (start : Position) {stop : Position} (h : stop.isUsable = true) :
    ofRange? (some ⟨start, some stop⟩) = between start.toHost stop.toHost := by
  rw [ofRange?]
  exact if_pos h

/-- A range with an end that is missing, cannot be used, or is shown where the start is. -/
theorem ofRange?_eq_character {range : Range}
    (h : ¬∃ stop, range.stop = some stop ∧ stop.line ≠ 0 ∧ stop.column ≠ 0 ∧
      range.start.toHost ≠ stop.toHost) :
    ofRange? (some range) = character range.start.toHost := by
  obtain ⟨start, _ | stop⟩ := range
  · rfl
  · by_cases husable : stop.isUsable = true
    · have hsame : start.toHost = stop.toHost := by
        by_contra hne
        obtain ⟨hline, hcolumn⟩ := Position.isUsable_iff.mp husable
        exact h ⟨stop, rfl, hline, hcolumn, hne⟩
      rw [ofRange?_of_isUsable start husable, hsame, between_self]
    · rw [ofRange?]
      exact if_neg husable

theorem isWellFormed_ofRange? (range : Option Range) : (ofRange? range).IsWellFormed := by
  match range with
  | none => exact isWellFormed_character ⟨le_rfl, le_rfl⟩
  | some ⟨start, none⟩ => exact isWellFormed_character start.isNonneg_toHost
  | some ⟨start, some stop⟩ =>
    rw [ofRange?]
    simp only
    split
    · exact isWellFormed_between start.isNonneg_toHost stop.isNonneg_toHost
    · exact isWellFormed_character start.isNonneg_toHost

end HostRange

/-! ## Coordinates that carry no integer -/

namespace Value

/-- A value that an integer can be taken from: an integer, a finite number, or text that begins with
blanks, at most one sign and a digit. -/
def HasInteger : Value → Prop
  | .int _ => True
  | .float x => x.isFinite = true
  | .str t => t.HasDigits 0
  | _ => False

/-- Any other value leaves the default. -/
theorem toIntOr_of_not_hasInteger {value : Value} (h : ¬value.HasInteger) (default : Int) :
    value.toIntOr default = .ok default := by
  cases value with
  | int z => exact absurd trivial h
  | float x =>
    cases x with
    | finite negative mantissa exponent => exact absurd rfl h
    | nan => rfl
    | infinite negative => rfl
  | str t =>
    rw [toIntOr, leadingInteger?_of_not_hasDigits h]
    rfl
  | null | bool | list | object | date => rfl

end Value

theorem Position.ofValues_of_not_hasInteger {line column : Value} (hline : ¬line.HasInteger)
    (hcolumn : ¬column.HasInteger) (defaultLine defaultColumn : Int) :
    ofValues line column defaultLine defaultColumn = .ok ⟨defaultLine, defaultColumn⟩ := by
  rw [ofValues, Value.toIntOr_of_not_hasInteger hline, Value.toIntOr_of_not_hasInteger hcolumn]
  rfl

namespace HostRange

/-- An end at the start is shown like no end. -/
theorem ofRange?_stop_eq_start (start : Position) :
    ofRange? (some ⟨start, some start⟩) = ofRange? (some ⟨start, none⟩) := by
  refine (ofRange?_eq_character ?_).trans rfl
  rintro ⟨stop, hstop, -, -, hne⟩
  exact hne (congrArg Position.toHost (Option.some.inj hstop))

/-- A range object with an end that carries no integer is shown as it is without the end. -/
theorem map_ofBounds_without {bounds stop : Members}
    (hstop : Members.get bounds (text "end") = .object stop)
    (hline : ¬(Members.get stop (text "line")).HasInteger)
    (hcolumn : ¬(Members.get stop (text "column")).HasInteger) :
    (Range.ofBounds bounds).map ofRange?
      = (Range.ofBounds (bounds.without (text "end"))).map ofRange? := by
  have hne : text "end" ≠ text "start" := by decide
  rw [Range.ofBounds, Range.ofBounds, Members.get_without_of_ne hne]
  split
  · next start hstart =>
    simp only [hstop, Members.get_without_self, Position.ofValues_of_not_hasInteger hline hcolumn]
    cases Position.ofValues (Members.get start (text "line")) (Members.get start (text "column"))
        defaultCoordinate defaultCoordinate with
    | error fault => rfl
    | ok first => exact congrArg Except.ok (ofRange?_stop_eq_start first)
  · rfl

theorem map_ofRecord_without {record bounds stop : Members}
    (hbounds : Members.get record (text "range") = .object bounds)
    (hstop : Members.get bounds (text "end") = .object stop)
    (hline : ¬(Members.get stop (text "line")).HasInteger)
    (hcolumn : ¬(Members.get stop (text "column")).HasInteger) :
    (Range.ofRecord record).map ofRange?
      = (Range.ofRecord (record.insert (text "range") (.object (bounds.without (text "end"))))).map
          ofRange? := by
  have hstart : text "end" ≠ text "start" := by decide
  have hrow : text "range" ≠ text "line" := by decide
  have hplace : text "range" ≠ text "column" := by decide
  simp only [Range.ofRecord, hbounds, Value.members_object, Members.get_insert_self,
    Members.get_insert_of_ne hrow, Members.get_insert_of_ne hplace,
    Members.get_without_of_ne hstart]
  split
  · exact map_ofBounds_without hstop hline hcolumn
  · rfl

/-! ## The rule -/

/-- **Shown ranges are well formed**, whatever integers were reported.  Where nothing is known the
first character is shown; a usable end at another place makes the range from the smaller to the
larger place, whichever of them is called the end; and every other range is the character at its
start.  So each record that has a range at all is shown well formed, and an end that carries no
integer is shown like no end. -/
theorem ofRange?_normal :
    (∀ range, (ofRange? range).IsWellFormed) ∧
    ofRange? none = ⟨⟨0, 0⟩, ⟨0, 1⟩⟩ ∧
    (∀ start stop : Position, stop.line ≠ 0 → stop.column ≠ 0 → start.toHost ≠ stop.toHost →
      ofRange? (some ⟨start, some stop⟩)
        = ⟨min start.toHost stop.toHost, max start.toHost stop.toHost⟩) ∧
    (∀ start stop : Position, start.line ≠ 0 → start.column ≠ 0 → stop.line ≠ 0 →
      stop.column ≠ 0 →
      ofRange? (some ⟨start, some stop⟩) = ofRange? (some ⟨stop, some start⟩)) ∧
    (∀ range : Range, (¬∃ stop, range.stop = some stop ∧ stop.line ≠ 0 ∧ stop.column ≠ 0 ∧
        range.start.toHost ≠ stop.toHost) →
      ofRange? (some range) = character range.start.toHost) ∧
    (∀ record range, Range.ofRecord record = .ok range → (ofRange? range).IsWellFormed) ∧
    ∀ record bounds stop : Members, Members.get record (text "range") = .object bounds →
      Members.get bounds (text "end") = .object stop →
      ¬(Members.get stop (text "line")).HasInteger →
      ¬(Members.get stop (text "column")).HasInteger →
      (Range.ofRecord record).map ofRange?
        = (Range.ofRecord
            (record.insert (text "range") (.object (bounds.without (text "end"))))).map
              ofRange? := by
  refine ⟨isWellFormed_ofRange?, rfl, ?_, ?_, fun range => ofRange?_eq_character,
    fun _ range _ => isWellFormed_ofRange? range, fun _ _ _ => map_ofRecord_without⟩
  · intro start stop hline hcolumn hne
    rw [ofRange?_of_isUsable start (Position.isUsable_iff.mpr ⟨hline, hcolumn⟩), between_of_ne hne]
  · intro start stop hline hcolumn hstopLine hstopColumn
    rw [ofRange?_of_isUsable start (Position.isUsable_iff.mpr ⟨hstopLine, hstopColumn⟩),
      ofRange?_of_isUsable stop (Position.isUsable_iff.mpr ⟨hline, hcolumn⟩), between_comm]

/-- A reversed range with a negative coordinate, a range whose two positions are shown at one place,
and a record whose end has text and an infinite number for its coordinates. -/
theorem ofRange?_normal_reversed :
    let start : Position := ⟨7, 1⟩
    let stop : Position := ⟨2, -4⟩
    let clamped : Range := ⟨⟨-3, 1⟩, some ⟨1, -5⟩⟩
    let useless : Members :=
      [(text "line", .str (text "x1")), (text "column", .float (.infinite false))]
    let bounds : Members :=
      [(text "start", .object [(text "line", .str (text " +7x"))]), (text "end", .object useless)]
    let record : Members := [(text "range", .object bounds)]
    (stop.line ≠ 0 ∧ stop.column ≠ 0 ∧ start.toHost ≠ stop.toHost) ∧
      ofRange? (some ⟨start, some stop⟩) = ⟨⟨1, 0⟩, ⟨6, 0⟩⟩ ∧
      ofRange? (some ⟨start, some stop⟩) = ofRange? (some ⟨stop, some start⟩) ∧
      ofRange? (some clamped) = character ⟨0, 0⟩ ∧
      Range.ofRecord record = .ok (some ⟨start, some start⟩) ∧
      (ofRange? (some ⟨start, some start⟩)).IsWellFormed ∧
      (Range.ofRecord record).map ofRange?
        = (Range.ofRecord
            (record.insert (text "range") (.object (bounds.without (text "end"))))).map
              ofRange? := by
  intro start stop clamped useless bounds record
  obtain ⟨-, -, hbetween, hcomm, hcharacter, hrecord, hwithout⟩ := ofRange?_normal
  have hstop : stop.line ≠ 0 ∧ stop.column ≠ 0 ∧ start.toHost ≠ stop.toHost := by decide
  have hclamped : ¬∃ stop, clamped.stop = some stop ∧ stop.line ≠ 0 ∧ stop.column ≠ 0 ∧
      clamped.start.toHost ≠ stop.toHost := by
    rintro ⟨_, ⟨⟩, -, -, hne⟩
    exact hne (by decide)
  have hread : Range.ofRecord record = .ok (some ⟨start, some start⟩) := by decide
  have hline : ¬(Members.get useless (text "line")).HasInteger := by
    show ¬(text "x1").HasDigits 0
    rw [← lt_length_unsigned_iff]
    decide
  have hcolumn : ¬(Members.get useless (text "column")).HasInteger := Bool.false_ne_true
  refine ⟨hstop, ?_, ?_, ?_, hread, hrecord record _ hread,
    hwithout record bounds useless rfl rfl hline hcolumn⟩
  · rw [hbetween start stop hstop.1 hstop.2.1 hstop.2.2]
    decide
  · exact hcomm start stop (by decide) (by decide) hstop.1 hstop.2.1
  · rw [hcharacter clamped hclamped]
    decide

end HostRange

end DiagnosticRelay
