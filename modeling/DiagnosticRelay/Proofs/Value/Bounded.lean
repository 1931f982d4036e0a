import DiagnosticRelay.Proofs.Fault.Overflow
import DiagnosticRelay.Proofs.Text.DecimalDigit
import DiagnosticRelay.Proofs.Value.Written
import DiagnosticRelay.Range

/-!
# Values whose integers are short

A loosely typed value is bounded if every integer in it is short, and every floating-point number in
it is cut off to a short integer.  Boundedness goes down to the members of an object, and
from there to everything that is read off them as a coordinate: the coordinate is an
integer of the value, a number in digits that were converted, or a default.

A bounded value can be written, too (`isShort_of_isBounded`).
-/

namespace DiagnosticRelay

namespace Value

mutual

/-- Every integer in a value is short, also after numbers are cut off. -/
def IsBounded : Value → Prop
  | .int z => IsShort z
  | .float x => x.IsModerate
  | .list items => AreBounded items
  | .object members => AreBoundedMembers members
  | _ => True

/-- All items are bounded. -/
def AreBounded : List Value → Prop
  | [] => True
  | item :: items => IsBounded item ∧ AreBounded items

/-- The values of all members are bounded. -/
def AreBoundedMembers : List (Text × Value) → Prop
  | [] => True
  | (_, value) :: members => IsBounded value ∧ AreBoundedMembers members

end

theorem areBounded_iff {items : List Value} :
    AreBounded items ↔ ∀ item ∈ items, item.IsBounded := by
  induction items with
  | nil => simp [AreBounded]
  | cons item items ih => rw [AreBounded, ih, List.forall_mem_cons]

theorem areBoundedMembers_iff {members : Members} :
    AreBoundedMembers members ↔ ∀ member ∈ members, member.2.IsBounded := by
  induction members with
  | nil => simp [AreBoundedMembers]
  | cons member members ih => rw [AreBoundedMembers, ih, List.forall_mem_cons]

theorem isBounded_get {members : Members} (h : AreBoundedMembers members) (key : Text) :
    (Members.get members key).IsBounded := by
  rw [Members.get, Members.get?]
  cases hfind : members.find? fun member => member.1 == key with
  | none => trivial
  | some member => exact areBoundedMembers_iff.mp h member (List.mem_of_find?_eq_some hfind)

theorem areBoundedMembers_members {value : Value} (h : value.IsBounded) :
    AreBoundedMembers value.members := by
  cases value with
  | object members => exact h
  | null | bool | int | float | str | list | date => trivial

theorem areBoundedMembers_of_mem_objects {value : Value} (h : value.IsBounded) {members : Members}
    (hmem : members ∈ value.objects) : AreBoundedMembers members := by
  cases value with
  | list items =>
    obtain ⟨item, hitem, hobject⟩ := List.mem_filterMap.mp hmem
    split at hobject
    · cases hobject
      exact areBounded_iff.mp h _ hitem
    · cases hobject
  | null | bool | int | float | str | object | date => cases hmem

mutual

/-- A bounded value can be written. -/
theorem isShort_of_isBounded : ∀ {value : Value}, value.IsBounded → value.isShort = true
  | .int _, h => isShort_int.mpr h
  | .list _, h => areShort_of_areBounded h
  | .object _, h => areShortMembers_of_areBoundedMembers h
  | .null, _ | .bool _, _ | .float _, _ | .str _, _ | .date _, _ => rfl

theorem areShort_of_areBounded : ∀ {items : List Value}, AreBounded items → areShort items = true
  | [], _ => rfl
  | _ :: _, h => Bool.and_eq_true_iff.mpr ⟨isShort_of_isBounded h.1, areShort_of_areBounded h.2⟩

theorem areShortMembers_of_areBoundedMembers :
    ∀ {members : List (Text × Value)}, AreBoundedMembers members → areShortMembers members = true
  | [], _ => rfl
  | (_, _) :: _, h => Bool.and_eq_true_iff.mpr
      ⟨isShort_of_isBounded h.1, areShortMembers_of_areBoundedMembers h.2⟩

end

/-! ## Coordinates -/

theorem isShort_of_leadingInteger? {t : Text} {z : Int}
    (h : leadingInteger? t = .ok (some z)) : IsShort z := by
  rw [leadingInteger?] at h
  simp only at h
  split at h
  · cases h
  · next digits hdigits =>
    split at h
    · next n hn =>
      cases h
      exact isShort_signed (lt_of_readDigits (fun d hd => Decimal.lt_of_mem_leadingDigits hd) hn) _
    · cases h

/-- A coordinate of a bounded value is short if its default is. -/
theorem isShort_of_toIntOr {value : Value} (hvalue : value.IsBounded) {default z : Int}
    (hdefault : IsShort default) (h : value.toIntOr default = .ok z) : IsShort z := by
  cases value with
  | int held =>
    cases h
    exact hvalue
  | float x =>
    rw [toIntOr] at h
    cases htruncate : x.truncate? with
    | none =>
      rw [htruncate] at h
      cases h
      exact hdefault
    | some whole =>
      rw [htruncate] at h
      cases h
      exact hvalue _ htruncate
  | str t =>
    rw [toIntOr] at h
    cases hleading : leadingInteger? t with
    | error fault =>
      rw [hleading] at h
      cases h
    | ok found =>
      rw [hleading] at h
      cases found with
      | none =>
        cases h
        exact hdefault
      | some found =>
        cases h
        exact isShort_of_leadingInteger? hleading
  | null | bool | list | object | date =>
    cases h
    exact hdefault

end Value

/-- Both coordinates are short. -/
structure Position.IsShort (position : Position) : Prop where
  line : DiagnosticRelay.IsShort position.line
  column : DiagnosticRelay.IsShort position.column

/-- All coordinates are short. -/
structure Range.IsShort (range : Range) : Prop where
  start : range.start.IsShort
  stop : ∀ stop, range.stop = some stop → stop.IsShort

theorem Position.isShort_of_ofValues {line column : Value} (hline : line.IsBounded)
    (hcolumn : column.IsBounded) {defaultLine defaultColumn : Int}
    (hdefaultLine : DiagnosticRelay.IsShort defaultLine)
    (hdefaultColumn : DiagnosticRelay.IsShort defaultColumn) {position : Position}
    (h : ofValues line column defaultLine defaultColumn = .ok position) : position.IsShort := by
  rw [ofValues, bind_eq_ok] at h
  obtain ⟨first, hfirst, h⟩ := h
  rw [bind_eq_ok] at h
  obtain ⟨second, hsecond, h⟩ := h
  cases h
  exact ⟨Value.isShort_of_toIntOr hline hdefaultLine hfirst,
    Value.isShort_of_toIntOr hcolumn hdefaultColumn hsecond⟩

namespace Range

open Value (isBounded_get areBoundedMembers_members)

theorem isShort_of_ofPoint {line column : Value} (hline : line.IsBounded)
    (hcolumn : column.IsBounded) {range : Range} (h : ofPoint line column = .ok range) :
    range.IsShort := by
  rw [ofPoint, bind_eq_ok] at h
  obtain ⟨start, hstart, h⟩ := h
  cases h
  exact ⟨Position.isShort_of_ofValues hline hcolumn isShort_one isShort_one hstart,
    fun stop hstop => by cases hstop⟩

theorem isShort_of_ofBounds {bounds : Members} (hbounds : Value.AreBoundedMembers bounds)
    {range : Range} (h : ofBounds bounds = .ok (some range)) : range.IsShort := by
  rw [ofBounds] at h
  split at h
  · next start hstart =>
    have hstartBounded : Value.AreBoundedMembers start := by
      have hget := isBounded_get hbounds (text "start")
      rwa [hstart] at hget
    rw [bind_eq_ok] at h
    obtain ⟨first, hfirst, h⟩ := h
    have hshort : first.IsShort := Position.isShort_of_ofValues
      (isBounded_get hstartBounded _) (isBounded_get hstartBounded _) isShort_one isShort_one hfirst
    split at h
    · next stop hstop =>
      have hstopBounded : Value.AreBoundedMembers stop := by
        have hget := isBounded_get hbounds (text "end")
        rwa [hstop] at hget
      rw [bind_eq_ok] at h
      obtain ⟨last, hlast, h⟩ := h
      cases h
      refine ⟨hshort, ?_⟩
      rintro _ ⟨⟩
      exact Position.isShort_of_ofValues (isBounded_get hstopBounded _)
        (isBounded_get hstopBounded _) hshort.line hshort.column hlast
    · cases h
      exact ⟨hshort, fun stop hstop => by cases hstop⟩
  · cases h

/-- The range of a bounded record is short. -/
theorem isShort_of_ofRecord {record : Members} (hrecord : Value.AreBoundedMembers record)
    {range : Range} (h : ofRecord record = .ok (some range)) : range.IsShort := by
  rw [ofRecord] at h
  simp only at h
  split at h
  · exact isShort_of_ofBounds (areBoundedMembers_members (isBounded_get hrecord _)) h
  · split at h
    · cases h
    · cases hpoint : ofPoint (Members.get record (text "line"))
        (Members.get record (text "column")) with
      | error fault =>
        rw [hpoint] at h
        cases h
      | ok found =>
        rw [hpoint] at h
        cases h
        exact isShort_of_ofPoint (isBounded_get hrecord _) (isBounded_get hrecord _) hpoint

end Range

end DiagnosticRelay
