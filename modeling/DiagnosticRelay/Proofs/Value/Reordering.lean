import DiagnosticRelay.Proofs.Value.Distinct
import DiagnosticRelay.Proofs.Value.Written

/-!
# Values up to the order of their members

Two programs that write the same object may write its members in different orders, and they may do
so for every object inside it as well.  `Value.Reorders` relates a value to what becomes of it when
the members of its objects are put in any order, at any depth: an object first changes the order of
its own members, and then the value of each of them is reordered in its place.

A lookup does not see the order, provided that no key is there twice (`Reorders.get_members`).  So
whoever reads an object by its keys meets related values again, one level down.  What is no
container is related to nothing but itself.
-/

namespace DiagnosticRelay

namespace Members

/-- Where no key is there twice, a lookup finds exactly what is there. -/
theorem get?_eq_some_iff {members : Members} (h : members.keys.Nodup) {key : Text} {value : Value} :
    get? members key = some value ↔ (key, value) ∈ members := by
  refine ⟨mem_of_get?_eq_some, fun hmem => ?_⟩
  induction members with
  | nil => cases hmem
  | cons member members ih =>
    obtain ⟨other, held⟩ := member
    obtain ⟨hother, hrest⟩ := List.nodup_cons.mp h
    rw [get?_cons]
    rcases List.mem_cons.mp hmem with heq | hmem
    · obtain ⟨rfl, rfl⟩ := Prod.mk.inj heq
      rw [if_pos rfl]
    · have hne : other ≠ key := by
        rintro rfl
        exact hother (List.mem_map.mpr ⟨_, hmem, rfl⟩)
      rw [if_neg hne, ih hrest hmem]

theorem nodup_keys_of_perm {members others : Members} (hperm : members.Perm others)
    (h : members.keys.Nodup) : others.keys.Nodup :=
  (hperm.map Prod.fst).nodup_iff.mp h

theorem get?_of_perm {members others : Members} (hperm : members.Perm others)
    (h : members.keys.Nodup) (key : Text) : get? members key = get? others key := by
  refine Option.ext fun value => ?_
  rw [get?_eq_some_iff h, get?_eq_some_iff (nodup_keys_of_perm hperm h), hperm.mem_iff]

end Members

namespace Value

mutual

/-- The second value is the first one with the members of its objects in any order. -/
inductive Reorders : Value → Value → Prop
  | same (value : Value) : Reorders value value
  | list {items others : List Value} : ReordersItems items others →
      Reorders (.list items) (.list others)
  | object {members arranged others : Members} : members.Perm arranged →
      ReordersMembers arranged others → Reorders (.object members) (.object others)

/-- Each item is reordered in its place. -/
inductive ReordersItems : List Value → List Value → Prop
  | nil : ReordersItems [] []
  | cons {item other : Value} {items others : List Value} : Reorders item other →
      ReordersItems items others → ReordersItems (item :: items) (other :: others)

/-- The value of each member is reordered in its place. -/
inductive ReordersMembers : Members → Members → Prop
  | nil : ReordersMembers [] []
  | cons (key : Text) {value other : Value} {members others : Members} : Reorders value other →
      ReordersMembers members others →
      ReordersMembers ((key, value) :: members) ((key, other) :: others)

end

theorem ReordersMembers.refl (members : Members) : ReordersMembers members members := by
  induction members with
  | nil => exact .nil
  | cons member members ih => exact .cons member.1 (.same member.2) ih

theorem ReordersMembers.get {members others : Members} (h : ReordersMembers members others)
    (key : Text) : Reorders (Members.get members key) (Members.get others key) := by
  induction members generalizing others with
  | nil =>
    cases h
    exact .same _
  | cons member members ih =>
    obtain ⟨first, value⟩ := member
    cases h with
    | cons _ hvalue hrest =>
      rw [Members.get, Members.get, Members.get?_cons, Members.get?_cons]
      split
      · exact hvalue
      · exact ih hrest

theorem areDistinctMembers_of_perm {members others : Members} (hperm : members.Perm others)
    (h : AreDistinctMembers members) : AreDistinctMembers others := by
  rw [areDistinctMembers_iff] at h ⊢
  exact ⟨Members.nodup_keys_of_perm hperm h.1,
    fun member hmem => h.2 member (hperm.mem_iff.mpr hmem)⟩

mutual

/-- A reordering changes none of the integers. -/
theorem Reorders.isShort_eq {value other : Value} (h : Reorders value other) :
    other.isShort = value.isShort := by
  cases h with
  | same => rfl
  | list hitems => exact hitems.areShort_eq
  | object hperm hmembers =>
    rw [isShort, isShort, hmembers.areShortMembers_eq, Bool.eq_iff_iff, areShortMembers_iff,
      areShortMembers_iff]
    exact ⟨fun h member hmem => h member (hperm.mem_iff.mp hmem),
      fun h member hmem => h member (hperm.mem_iff.mpr hmem)⟩

theorem ReordersItems.areShort_eq {items others : List Value} (h : ReordersItems items others) :
    areShort others = areShort items := by
  cases h with
  | nil => rfl
  | cons hitem hitems => rw [areShort, areShort, hitem.isShort_eq, hitems.areShort_eq]

theorem ReordersMembers.areShortMembers_eq {members others : Members}
    (h : ReordersMembers members others) : areShortMembers others = areShortMembers members := by
  cases h with
  | nil => rfl
  | cons key hvalue hmembers =>
    rw [areShortMembers, areShortMembers, hvalue.isShort_eq, hmembers.areShortMembers_eq]

end

namespace Reorders

variable {value other : Value}

/-- What is neither a list nor an object stays as it is. -/
theorem eq_of_not_container (h : Reorders value other) (hlist : ∀ items, value ≠ .list items)
    (hobject : ∀ members, value ≠ .object members) : other = value := by
  cases h with
  | same => rfl
  | list => exact absurd rfl (hlist _)
  | object => exact absurd rfl (hobject _)

theorem isObject_eq (h : Reorders value other) : other.isObject = value.isObject := by
  cases h <;> rfl

theorem isNull_eq (h : Reorders value other) : other.isNull = value.isNull := by
  cases h <;> rfl

/-- **Lookups do not see the order of members.** -/
theorem get_members (h : Reorders value other) (hdistinct : value.IsDistinct) (key : Text) :
    Reorders (Members.get value.members key) (Members.get other.members key) := by
  cases h with
  | same => exact .same _
  | list => exact .same _
  | object hperm harranged =>
    rw [members_object, members_object, Members.get,
      Members.get?_of_perm hperm (areDistinctMembers_iff.mp hdistinct).1]
    exact harranged.get key

end Reorders

end Value

end DiagnosticRelay
