import DiagnosticRelay.Proofs.Value.Members

/-!
# Objects with different keys

An object is a list of members, and nothing in the type keeps a key from standing there twice.  In a
distinct value no object does so at any depth, and this is what makes the order of the
members immaterial to a lookup.
-/

namespace DiagnosticRelay

namespace Value

mutual

/-- No object in a value has a key twice. -/
def IsDistinct : Value → Prop
  | .list items => AreDistinct items
  | .object members => AreDistinctMembers members
  | _ => True

/-- No object in some items has a key twice. -/
def AreDistinct : List Value → Prop
  | [] => True
  | item :: items => IsDistinct item ∧ AreDistinct items

/-- Members have different keys, and no object in their values has a key twice. -/
def AreDistinctMembers : List (Text × Value) → Prop
  | [] => True
  | (key, value) :: members =>
    key ∉ members.map Prod.fst ∧ IsDistinct value ∧ AreDistinctMembers members

end

theorem areDistinct_iff {items : List Value} :
    AreDistinct items ↔ ∀ item ∈ items, item.IsDistinct := by
  induction items with
  | nil => simp [AreDistinct]
  | cons item items ih => rw [AreDistinct, ih, List.forall_mem_cons]

theorem areDistinctMembers_iff {members : Members} :
    AreDistinctMembers members ↔
      members.keys.Nodup ∧ ∀ member ∈ members, member.2.IsDistinct := by
  induction members with
  | nil => simp [AreDistinctMembers]
  | cons member members ih =>
    rw [AreDistinctMembers, ih, Members.keys_cons, List.nodup_cons, List.forall_mem_cons]
    tauto

end Value

namespace Members

open Value (AreDistinctMembers IsDistinct)

variable {members : Members} {key : Text} {value : Value}

theorem areDistinctMembers_insert (h : AreDistinctMembers members) (key : Text)
    (hvalue : value.IsDistinct) : AreDistinctMembers (members.insert key value) := by
  rw [Value.areDistinctMembers_iff] at h ⊢
  refine ⟨nodup_insert h.1 key value, fun member hmem => ?_⟩
  rcases mem_insert hmem with rfl | hmem
  · exact hvalue
  · exact h.2 member hmem

theorem isDistinct_get? (h : AreDistinctMembers members) (hvalue : get? members key = some value) :
    value.IsDistinct :=
  (Value.areDistinctMembers_iff.mp h).2 _ (mem_of_get?_eq_some hvalue)

theorem isDistinct_get (h : AreDistinctMembers members) (key : Text) :
    (get members key).IsDistinct := by
  rw [get]
  cases hvalue : get? members key with
  | none => trivial
  | some value => exact isDistinct_get? h hvalue

end Members

/-- What is found in a distinct value is distinct. -/
theorem Value.isDistinct_get_members {value : Value} (h : value.IsDistinct) (key : Text) :
    (Members.get value.members key).IsDistinct := by
  cases value with
  | object members => exact Members.isDistinct_get h key
  | null | bool | int | float | str | list | date => trivial

end DiagnosticRelay
