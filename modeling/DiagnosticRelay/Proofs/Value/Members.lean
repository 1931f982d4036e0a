import DiagnosticRelay.Value.Basic
import Mathlib.Data.List.Nodup

/-!
# Objects

The members of an object stand in order, and a value is looked up and written by its key.  What is
found after a write does not depend on whether keys are repeated (`get?_insert`); what is found
after writing a whole object does: a lookup takes the first member with a key, and writing leaves
the last one.  So `get?_update` is about an object that has no key twice.

Taking a value out leaves the others where they are (`get?_without`).  Writing adds keys and removes
none (`mem_keys_update`), keeps keys apart (`nodup_insert`), and goes well with leaving out the
members with certain keys (`filter_update`).
-/

namespace DiagnosticRelay

namespace Members

variable {members later : Members} {key k : Text}

/-- The keys of an object. -/
abbrev keys (members : Members) : List Text := members.map Prod.fst

theorem keys_cons (member : Text × Value) (members : Members) :
    keys (member :: members) = member.1 :: keys members := rfl

theorem get?_cons (key k : Text) (value : Value) (members : Members) :
    get? ((key, value) :: members) k = if key = k then some value else get? members k := by
  rw [get?, get?, List.find?_cons]
  by_cases hkey : key = k
  · simp [hkey]
  · simp [hkey, beq_eq_false_iff_ne.mpr hkey]

theorem has_iff_mem_keys : members.has key = true ↔ key ∈ members.keys := by
  simp [has]

theorem has_eq_isSome (members : Members) (key : Text) :
    members.has key = (get? members key).isSome := by
  induction members with
  | nil => rfl
  | cons member members ih =>
    obtain ⟨other, value⟩ := member
    rw [get?_cons, has, List.any_cons, ← has, ih]
    by_cases hkey : other = key <;> simp [hkey]

theorem get?_eq_none_iff : get? members key = none ↔ key ∉ members.keys := by
  rw [← has_iff_mem_keys, has_eq_isSome, Bool.not_eq_true, Option.isSome_eq_false_iff,
    Option.isNone_iff_eq_none]

theorem mem_of_get?_eq_some {value : Value} (h : get? members key = some value) :
    (key, value) ∈ members := by
  induction members with
  | nil => cases h
  | cons member members ih =>
    obtain ⟨other, held⟩ := member
    rw [get?_cons] at h
    split at h
    · next hkey =>
      rw [hkey, Option.some.inj h]
      exact List.mem_cons_self ..
    · exact List.mem_cons_of_mem _ (ih h)

/-! ## One value written -/

theorem get?_insert (members : Members) (key : Text) (value : Value) (k : Text) :
    get? (members.insert key value) k = if key = k then some value else get? members k := by
  induction members with
  | nil => rw [insert, get?_cons]
  | cons member members ih =>
    obtain ⟨other, held⟩ := member
    rw [insert]
    by_cases hother : other = key
    · rw [if_pos hother, get?_cons, get?_cons, hother]
      by_cases hkey : key = k <;> simp [hkey]
    · rw [if_neg hother, get?_cons, ih, get?_cons]
      by_cases hkey : other = k
      · rw [if_pos hkey, if_pos hkey, if_neg fun h => hother (hkey.trans h.symm)]
      · rw [if_neg hkey, if_neg hkey]

theorem insert_of_not_mem (h : key ∉ members.keys) (value : Value) :
    members.insert key value = members ++ [(key, value)] := by
  induction members with
  | nil => rfl
  | cons member rest ih =>
    obtain ⟨other, held⟩ := member
    rw [keys_cons, List.mem_cons, not_or] at h
    rw [insert, if_neg (Ne.symm h.1), ih h.2, List.cons_append]

theorem mem_keys_insert {value : Value} :
    k ∈ (members.insert key value).keys ↔ k = key ∨ k ∈ members.keys := by
  rw [← has_iff_mem_keys, ← has_iff_mem_keys, has_eq_isSome, has_eq_isSome, get?_insert]
  by_cases hkey : key = k
  · simp [hkey]
  · simp [hkey, Ne.symm hkey]

theorem nodup_insert (h : members.keys.Nodup) (key : Text) (value : Value) :
    (members.insert key value).keys.Nodup := by
  induction members with
  | nil => exact List.nodup_singleton key
  | cons member members ih =>
    obtain ⟨other, held⟩ := member
    obtain ⟨hother, hrest⟩ := List.nodup_cons.mp h
    rw [insert]
    split
    · exact List.nodup_cons.mpr ⟨hother, hrest⟩
    · next hne =>
      refine List.nodup_cons.mpr ⟨fun hmem => ?_, ih hrest⟩
      exact (mem_keys_insert.mp hmem).elim hne hother

theorem mem_insert {member : Text × Value} {value : Value} (h : member ∈ members.insert key value) :
    member = (key, value) ∨ member ∈ members := by
  induction members with
  | nil => exact Or.inl (List.mem_singleton.mp h)
  | cons first members ih =>
    obtain ⟨other, held⟩ := first
    rw [insert] at h
    split at h
    · next hother =>
      rcases List.mem_cons.mp h with rfl | hmem
      · exact Or.inl (by rw [hother])
      · exact Or.inr (List.mem_cons_of_mem _ hmem)
    · rcases List.mem_cons.mp h with rfl | hmem
      · exact Or.inr (List.mem_cons_self ..)
      · exact (ih hmem).imp_right (List.mem_cons_of_mem _)

theorem filter_insert (p : Text → Bool) (members : Members) (key : Text) (value : Value) :
    (members.insert key value).filter (fun member => p member.1)
      = if p key then insert (members.filter fun member => p member.1) key value
        else members.filter fun member => p member.1 := by
  induction members with
  | nil => cases hp : p key <;> simp [hp]
  | cons member members ih =>
    obtain ⟨other, held⟩ := member
    rw [insert]
    by_cases hother : other = key
    · cases hp : p key <;> simp [hother, hp, insert]
    · rw [if_neg hother, List.filter_cons, List.filter_cons, ih]
      cases hp : p key <;> cases ho : p other <;> simp [hother, insert]

theorem get_insert_self (members : Members) (key : Text) (value : Value) :
    get (members.insert key value) key = value := by
  rw [get, get?_insert, if_pos rfl, Option.getD_some]

theorem get_insert_of_ne (h : key ≠ k) (members : Members) (value : Value) :
    get (members.insert key value) k = get members k := by
  rw [get, get, get?_insert, if_neg h]

/-! ## One value taken out -/

/-- An object without the value at a key. -/
def without (members : Members) (key : Text) : Members :=
  members.filter fun member => member.1 != key

theorem get?_without (members : Members) (key k : Text) :
    get? (members.without key) k = if key = k then none else get? members k := by
  induction members with
  | nil => simp [without]
  | cons member members ih =>
    obtain ⟨other, value⟩ := member
    rw [without] at ih
    rw [without, List.filter_cons, get?_cons]
    by_cases hother : other = key
    · rw [if_neg (by simpa using hother), ih, hother]
      by_cases hkey : key = k <;> simp [hkey]
    · rw [if_pos (by simpa using hother), get?_cons, ih]
      by_cases hkey : other = k
      · rw [if_pos hkey, if_pos hkey, if_neg fun h => hother (hkey.trans h.symm)]
      · rw [if_neg hkey, if_neg hkey]

theorem get_without_self (members : Members) (key : Text) :
    get (members.without key) key = .null := by
  rw [get, get?_without, if_pos rfl, Option.getD_none]

theorem get_without_of_ne (h : key ≠ k) (members : Members) :
    get (members.without key) k = get members k := by
  rw [get, get, get?_without, if_neg h]

/-! ## An object written into another -/

theorem update_cons (members : Members) (member : Text × Value) (later : Members) :
    members.update (member :: later) = (members.insert member.1 member.2).update later := rfl

theorem update_of_nodup (h : (members ++ later).keys.Nodup) :
    members.update later = members ++ later := by
  induction later generalizing members with
  | nil => simp [update]
  | cons member rest ih =>
    obtain ⟨key, value⟩ := member
    have hkey : key ∉ members.keys := by
      rw [keys, List.map_append, List.nodup_append] at h
      exact fun hmem => h.2.2 key hmem key (List.mem_cons_self ..) rfl
    have hrest : update (members ++ [(key, value)]) rest = members ++ [(key, value)] ++ rest :=
      ih (by simpa using h)
    rw [update_cons, insert_of_not_mem hkey, hrest, List.append_assoc, List.singleton_append]

/-- Members with different keys are the object that they make. -/
theorem ofList_of_nodup (h : members.keys.Nodup) : ofList members = members := by
  rw [ofList, update_of_nodup (by simpa using h), List.nil_append]

theorem mem_keys_update : k ∈ (members.update later).keys ↔ k ∈ members.keys ∨ k ∈ later.keys := by
  induction later generalizing members with
  | nil => exact (or_iff_left List.not_mem_nil).symm
  | cons member later ih =>
    rw [update_cons, ih, mem_keys_insert, keys_cons, List.mem_cons]
    tauto

/-- **A later object wins key by key**, if it has no key twice. -/
theorem get?_update (h : later.keys.Nodup) (members : Members) (k : Text) :
    get? (members.update later) k = (get? later k).or (get? members k) := by
  induction later generalizing members with
  | nil => rfl
  | cons member later ih =>
    obtain ⟨key, value⟩ := member
    obtain ⟨hkey, hrest⟩ := List.nodup_cons.mp h
    rw [update_cons, ih hrest, get?_cons, get?_insert]
    by_cases hk : key = k
    · subst hk
      rw [if_pos rfl, if_pos rfl, get?_eq_none_iff.mpr hkey]
      rfl
    · rw [if_neg hk, if_neg hk]

theorem filter_update (p : Text → Bool) (members later : Members) :
    (members.update later).filter (fun member => p member.1)
      = update (members.filter fun member => p member.1)
          (later.filter fun member => p member.1) := by
  induction later generalizing members with
  | nil => rfl
  | cons member later ih =>
    rw [update_cons, ih, filter_insert, List.filter_cons]
    split
    · rw [update_cons]
    · rfl

end Members

end DiagnosticRelay
