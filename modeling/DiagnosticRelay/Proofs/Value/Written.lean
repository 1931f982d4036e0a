import DiagnosticRelay.Proofs.Fault.Traversal
import DiagnosticRelay.Proofs.Number.Magnitude
import DiagnosticRelay.Value.Display

/-!
# What can be written

Writing fails exactly if an integer is too long, whatever the layout, and so does everything that
is made of written values.  `WrittenWhen x p` says that the computation `x` succeeds exactly under
the condition `p` and has no other way to fail.  It is put together along the computation:
`WrittenWhen.map` and `WrittenWhen.mapM` are for what is made of one value or of a list of them.

Conditions begin with a value (`Value.writtenWhen_written`, `Value.writtenWhen_display`), and which
values are short is known from their integers: `Decimal.isShort_iff` says which of those count, and
`areShort_iff` and `areShortMembers_iff` lead down to them.
-/

namespace DiagnosticRelay

variable {α β : Type}

/-- A computation that succeeds exactly under a condition, and else fails because an integer is too
long to be written. -/
def WrittenWhen (x : Except Fault α) (p : Prop) : Prop :=
  (p ∧ ∃ a, x = .ok a) ∨ (¬p ∧ x = .error .integerTooLong)

namespace WrittenWhen

variable {x : Except Fault α} {p q : Prop}

theorem ok (a : α) : WrittenWhen (.ok a) True := Or.inl ⟨trivial, a, rfl⟩

/-- The condition may be said in other words. -/
theorem congr (h : WrittenWhen x p) (hpq : p ↔ q) : WrittenWhen x q := by
  rcases h with ⟨hp, hok⟩ | ⟨hp, herror⟩
  · exact Or.inl ⟨hpq.mp hp, hok⟩
  · exact Or.inr ⟨mt hpq.mpr hp, herror⟩

theorem ok_iff (h : WrittenWhen x p) : (∃ a, x = .ok a) ↔ p := by
  rcases h with ⟨hp, hok⟩ | ⟨hp, rfl⟩
  · exact iff_of_true hok hp
  · exact iff_of_false nofun hp

/-- The one fault there is. -/
theorem eq_integerTooLong (h : WrittenWhen x p) {fault : Fault} (hx : x = .error fault) :
    fault = .integerTooLong := by
  rcases h with ⟨-, a, rfl⟩ | ⟨-, rfl⟩
  · cases hx
  · exact (Except.error.inj hx).symm

theorem eq_error (h : WrittenWhen x p) (hp : ¬p) : x = .error .integerTooLong := by
  rcases h with ⟨hholds, -⟩ | ⟨-, herror⟩
  · exact absurd hholds hp
  · exact herror

theorem map (h : WrittenWhen x p) (f : α → β) : WrittenWhen (x.map f) p := by
  rcases h with ⟨hp, a, rfl⟩ | ⟨hp, rfl⟩
  · exact Or.inl ⟨hp, f a, rfl⟩
  · exact Or.inr ⟨hp, rfl⟩

/-- A list is written if each of its items is; it does not matter which one fails first. -/
theorem mapM {f : α → Except Fault β} {p : α → Prop} {items : List α}
    (h : ∀ item ∈ items, WrittenWhen (f item) (p item)) :
    WrittenWhen (items.mapM f) (∀ item ∈ items, p item) := by
  cases hall : items.mapM f with
  | ok results =>
    have hitems := exists_mapM_iff.mp ⟨results, hall⟩
    exact Or.inl ⟨fun item hitem => (h item hitem).ok_iff.mp (hitems item hitem), results, rfl⟩
  | error fault =>
    obtain ⟨item, hitem, hfails⟩ := exists_of_mapM_eq_error hall
    rw [(h item hitem).eq_integerTooLong hfails]
    refine Or.inr ⟨fun hp => ?_, rfl⟩
    obtain ⟨b, hb⟩ := (h item hitem).ok_iff.mpr (hp item hitem)
    rw [hfails] at hb
    cases hb

end WrittenWhen

/-! ## Values -/

/-- The digits of an integer are counted by its magnitude. -/
theorem Decimal.isShort_iff {z : Int} : isShort z = true ↔ IsShort z := by
  rw [isShort, decide_eq_true_eq, ofNat_eq, List.length_map, length_digitsOf_le_iff (by decide),
    IsShort]

namespace Value

theorem isShort_int {z : Int} : (Value.int z).isShort = true ↔ IsShort z := by
  rw [isShort, Decimal.isShort_iff]

theorem areShort_iff {items : List Value} :
    areShort items = true ↔ ∀ item ∈ items, item.isShort = true := by
  induction items with
  | nil => simp [areShort]
  | cons item items ih => rw [areShort, Bool.and_eq_true, ih, List.forall_mem_cons]

theorem areShortMembers_iff {members : Members} :
    areShortMembers members = true ↔ ∀ member ∈ members, member.2.isShort = true := by
  induction members with
  | nil => simp [areShortMembers]
  | cons member members ih => rw [areShortMembers, Bool.and_eq_true, ih, List.forall_mem_cons]

theorem writtenWhen_written (layout : Value → Text) (value : Value) :
    WrittenWhen (value.written layout) (value.isShort = true) := by
  rw [written]
  split
  · next h => exact Or.inl ⟨h, _, rfl⟩
  · next h => exact Or.inr ⟨h, rfl⟩

/-- Text is not written but shown as it is, and it holds no integer. -/
theorem writtenWhen_display (value : Value) :
    WrittenWhen value.display (value.isShort = true) := by
  cases value with
  | str s => exact (WrittenWhen.ok s).congr (iff_of_true trivial rfl)
  | null | bool | int | float | list | object | date =>
    exact writtenWhen_written displayInside _

theorem display_int {z : Int} (h : IsShort z) :
    (Value.int z).display = .ok (Decimal.ofInt z) :=
  written_of_isShort (isShort_int.mpr h) displayInside

end Value

end DiagnosticRelay
