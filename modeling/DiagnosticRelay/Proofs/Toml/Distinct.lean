import DiagnosticRelay.Proofs.Fault.Overflow
import DiagnosticRelay.Proofs.Value.Distinct
import DiagnosticRelay.Toml.Document

/-!
# No key is there twice

What is read from a configuration document has no repeated keys at any depth
(`areDistinctMembers_of_read`): its tables grow by `Members.insert` alone, and a change below a
table leaves the tables around it as they were.

* `KeepsDistinct.changeAt` says that a change of the table at some place repeats no key, if the
  change itself repeats none.
* `Gives P x` says of a reader that whatever it gives has the property `P`.  `readAt_gives` carries
  it through the three readers of values that call one another, by induction on their fuel.
-/

namespace DiagnosticRelay

namespace Toml

open Value (AreDistinct AreDistinctMembers IsDistinct)

/-! ## Tables -/

/-- A change of a table that repeats no key. -/
def KeepsDistinct (change : Members → Option Members) : Prop :=
  ∀ table changed, AreDistinctMembers table → change table = some changed →
    AreDistinctMembers changed

theorem keepsDistinct_some : KeepsDistinct some := by
  rintro table _ htable ⟨⟩
  exact htable

/-- A change somewhere below a table repeats no key, if the change itself repeats none. -/
theorem KeepsDistinct.changeAt {change : Members → Option Members} (h : KeepsDistinct change)
    (enterArrays : Bool) (path : KeyPath) : KeepsDistinct (changeAt enterArrays change path) := by
  induction path with
  | nil => exact h
  | cons key path ih =>
    intro table changed htable hchanged
    rw [Toml.changeAt] at hchanged
    split at hchanged
    · obtain ⟨inner, hinner, rfl⟩ := Option.map_eq_some_iff.mp hchanged
      exact Members.areDistinctMembers_insert htable key (ih [] inner trivial hinner)
    · next held hheld =>
      obtain ⟨inner, hinner, rfl⟩ := Option.map_eq_some_iff.mp hchanged
      exact Members.areDistinctMembers_insert htable key
        (ih held inner (Members.isDistinct_get? htable hheld) hinner)
    · next items hitems =>
      have hdistinct : AreDistinct items := Members.isDistinct_get? htable hitems
      split at hchanged
      · next held hlast =>
        obtain ⟨inner, hinner, rfl⟩ := Option.map_eq_some_iff.mp hchanged
        rw [Value.areDistinct_iff] at hdistinct
        have hheld : AreDistinctMembers held :=
          hdistinct (.object held) (List.mem_of_getLast? hlast)
        refine Members.areDistinctMembers_insert htable key (Value.areDistinct_iff.mpr ?_)
        rw [List.forall_mem_append, List.forall_mem_singleton]
        exact ⟨fun item hitem => hdistinct item (List.dropLast_subset items hitem),
          ih held inner hheld hinner⟩
      · cases hchanged
    · cases hchanged

theorem keepsDistinct_openTable (path : KeyPath) : KeepsDistinct (openTable path) :=
  keepsDistinct_some.changeAt true path

theorem keepsDistinct_appendTable (path : KeyPath) : KeepsDistinct (appendTable path) := by
  intro table changed htable hchanged
  rw [appendTable] at hchanged
  split at hchanged
  · cases hchanged
  · next last _ =>
    refine KeepsDistinct.changeAt (fun parent changed hparent hchanged => ?_) true path.dropLast
      table changed htable hchanged
    split at hchanged
    · cases hchanged
      exact Members.areDistinctMembers_insert hparent last ⟨trivial, trivial⟩
    · next items hitems =>
      cases hchanged
      refine Members.areDistinctMembers_insert hparent last (Value.areDistinct_iff.mpr ?_)
      rw [List.forall_mem_append, List.forall_mem_singleton]
      exact ⟨Value.areDistinct_iff.mp (Members.isDistinct_get? hparent hitems), trivial⟩
    · cases hchanged

theorem keepsDistinct_addValue (enterArrays : Bool) (path : KeyPath) (key : Text) {value : Value}
    (hvalue : value.IsDistinct) : KeepsDistinct (addValue enterArrays path key value) := by
  refine KeepsDistinct.changeAt (fun parent changed hparent hchanged => ?_) enterArrays path
  split at hchanged
  · cases hchanged
  · cases hchanged
    exact Members.areDistinctMembers_insert hparent key hvalue

/-! ## Readers -/

/-- Whatever a reader gives has a property. -/
def Gives {α : Type} (P : α → Prop) (x : Except Refusal α) : Prop := ∀ a, x = .ok a → P a

namespace Gives

variable {α β : Type} {P : α → Prop} {Q : β → Prop} {x : Except Refusal α}

theorem ok {a : α} (h : P a) : Gives P (.ok a) := by
  rintro _ ⟨⟩
  exact h

theorem error (refusal : Refusal) : Gives P (.error refusal) := by
  rintro _ ⟨⟩

theorem bind (hx : Gives P x) {f : α → Except Refusal β} (hf : ∀ a, P a → Gives Q (f a)) :
    Gives Q (x >>= f) := by
  intro b h
  obtain ⟨a, ha, hb⟩ := bind_eq_ok.mp h
  exact hf a (hx a ha) b hb

/-- Nothing needs to be known of what a reader gives. -/
theorem bind_any {f : α → Except Refusal β} (hf : ∀ a, Gives Q (f a)) : Gives Q (x >>= f) :=
  bind (P := fun _ => True) (fun _ _ => trivial) fun a _ => hf a

theorem orMalformed {found : Option α} (h : ∀ a, found = some a → P a) :
    Gives P (orMalformed found) := by
  cases found with
  | none => exact error .malformed
  | some a => exact ok (h a rfl)

theorem orMalformed_map {found : Option α} {f : α → β} (h : ∀ a, Q (f a)) :
    Gives Q (Toml.orMalformed (found.map f)) := by
  cases found with
  | none => exact error .malformed
  | some a => exact ok (h a)

end Gives

theorem isDistinct_of_not_isContainer {value : Value} (h : isContainer value = false) :
    value.IsDistinct := by
  cases value with
  | list | object => cases h
  | null | bool | int | float | str | date => trivial

/-- A scalar that is found, if any, is no container. -/
abbrev FindsScalar (found : Option (Value × Text)) : Prop :=
  ∀ value ∈ found, isContainer value.1 = false

theorem findsScalar_none : FindsScalar none := by
  rintro _ ⟨⟩

theorem findsScalar_some {value : Value} (h : isContainer value = false) (after : Text) :
    FindsScalar (some (value, after)) := by
  rintro _ ⟨⟩
  exact h

theorem readDate?_gives (t : Text) : Gives FindsScalar (readDate? t) := by
  unfold readDate?
  extract_lets date
  clear_value date
  split
  · split
    · exact .error _
    · exact .ok (findsScalar_some rfl _)
  · cases takeTime? t with
    | none => exact .ok findsScalar_none
    | some found => exact .ok (findsScalar_some rfl _)

theorem findsScalar_readBased? (t : Text) : FindsScalar (readBased? t) := by
  unfold readBased?
  extract_lets read
  have hread (base : Nat) (rest : Text) : FindsScalar (read base rest) := by
    simp only [read]
    split
    · exact findsScalar_none
    · exact findsScalar_some rfl _
  split
  · exact hread _ _
  · exact hread _ _
  · exact hread _ _
  · exact findsScalar_none

theorem readDecimal?_gives (t : Text) : Gives FindsScalar (readDecimal? t) := by
  unfold readDecimal?
  simp only
  -- a zero at the head is a number by itself, and everything else comes twice for that
  split <;> split
  · exact .ok findsScalar_none
  · split
    · split
      · exact .ok (findsScalar_some rfl _)
      · exact .error _
    · exact .ok (findsScalar_some rfl _)
  · exact .ok findsScalar_none
  · split
    · split
      · exact .ok (findsScalar_some rfl _)
      · exact .error _
    · exact .ok (findsScalar_some rfl _)

theorem findsScalar_readSpecial? (t : Text) : FindsScalar (readSpecial? t) := by
  intro value hvalue
  obtain ⟨word, -, hword⟩ := List.exists_of_findSome?_eq_some hvalue
  obtain ⟨_, -, rfl⟩ := Option.map_eq_some_iff.mp hword
  rfl

theorem readScalar_gives (t : Text) :
    Gives (fun found => isContainer found.1 = false) (readScalar t) := by
  rw [readScalar.eq_def]
  split
  · exact .ok rfl
  · split
    · exact .ok rfl
    · refine (readDate?_gives t).bind fun date hdate => ?_
      split
      · next found => exact .ok (hdate found rfl)
      · split
        · next found hfound => exact .ok (findsScalar_readBased? t found hfound)
        · refine (readDecimal?_gives t).bind fun number hnumber => ?_
          split
          · next found => exact .ok (hnumber found rfl)
          · exact .orMalformed fun found hfound => findsScalar_readSpecial? t found hfound

/-! ## Containers -/

/-- With a given fuel, values, items and members repeat no key; the members continue those that are
there already. -/
def ReadAtGives (fuel : Nat) : Prop :=
  (∀ t, Gives (fun found => found.1.IsDistinct) (readValue fuel t)) ∧
    (∀ t, Gives (fun found => AreDistinct found.1) (readItems fuel t)) ∧
    ∀ table marks t, AreDistinctMembers table →
      Gives (fun found => AreDistinctMembers found.1) (readInline fuel table marks t)

variable {fuel : Nat}

theorem readValue_gives (ih : ReadAtGives fuel) (t : Text) :
    Gives (fun found => found.1.IsDistinct) (readValue (fuel + 1) t) := by
  rw [readValue.eq_def]
  simp only
  split
  · exact .orMalformed_map fun _ => trivial
  · exact .orMalformed_map fun _ => trivial
  · refine .bind_any fun t => ?_
    split
    · exact .ok trivial
    · exact (ih.2.1 _).bind fun found h => .ok h
  · split
    · exact .ok trivial
    · exact (ih.2.2 [] {} _ trivial).bind fun found h => .ok h
  · exact fun found hfound => isDistinct_of_not_isContainer (readScalar_gives t found hfound)

theorem readItems_gives (ih : ReadAtGives fuel) (t : Text) :
    Gives (fun found => AreDistinct found.1) (readItems (fuel + 1) t) := by
  rw [readItems.eq_def]
  simp only
  refine (ih.1 t).bind fun item hitem => .bind_any fun t => ?_
  split
  · exact .ok ⟨hitem, trivial⟩
  · refine .bind_any fun t => ?_
    split
    · exact .ok ⟨hitem, trivial⟩
    · exact (ih.2.1 _).bind fun items hitems => .ok ⟨hitem, hitems⟩
  · exact .error _

theorem readInline_gives (ih : ReadAtGives fuel) (table : Members) (marks : Marks) (t : Text)
    (htable : AreDistinctMembers table) :
    Gives (fun found => AreDistinctMembers found.1) (readInline (fuel + 1) table marks t) := by
  rw [readInline.eq_def]
  simp only
  refine .bind_any fun key => .bind_any fun t => (ih.1 _).bind fun value hvalue => ?_
  split
  · exact .error .malformed
  · refine (Gives.orMalformed (keepsDistinct_addValue _ _ _ hvalue table · htable)).bind
      fun table htable => ?_
    split
    · exact .ok htable
    · exact ih.2.2 _ _ _ htable
    · exact .error _

theorem readAt_gives : ∀ fuel, ReadAtGives fuel
  | 0 => by
    refine ⟨fun t => ?_, fun t => ?_, fun table marks t _ => ?_⟩
    · rw [readValue]
      exact .error _
    · rw [readItems]
      exact .error _
    · rw [readInline]
      exact .error _
  | fuel + 1 =>
    have ih := readAt_gives fuel
    ⟨readValue_gives ih, readItems_gives ih, readInline_gives ih⟩

/-! ## Documents -/

/-- A statement leaves a tree without repeated keys. -/
abbrev GivesTree (x : Except Refusal (State × Text)) : Prop :=
  Gives (fun found => AreDistinctMembers found.1.tree) x

variable {state : State}

theorem readHeader_gives (h : AreDistinctMembers state.tree) (t : Text) :
    GivesTree (readHeader state t) := by
  unfold readHeader
  simp only
  refine .bind_any fun key => ?_
  split
  · exact .error .malformed
  · exact (Gives.orMalformed (keepsDistinct_openTable _ state.tree · h)).bind fun tree htree =>
      .bind_any fun t => .ok htree

theorem readArrayHeader_gives (h : AreDistinctMembers state.tree) (t : Text) :
    GivesTree (readArrayHeader state t) := by
  unfold readArrayHeader
  simp only
  refine .bind_any fun key => ?_
  split
  · exact .error .malformed
  · exact (Gives.orMalformed (keepsDistinct_appendTable _ state.tree · h)).bind fun tree htree =>
      .bind_any fun t => .bind_any fun t => .ok htree

theorem readPair_gives (h : AreDistinctMembers state.tree) (t : Text) :
    GivesTree (readPair state t) := by
  unfold readPair
  simp only
  refine .bind_any fun key => .bind_any fun t => ((readAt_gives _).1 _).bind fun value hvalue => ?_
  split
  · exact .error .malformed
  · split
    · exact .error .malformed
    · exact (Gives.orMalformed (keepsDistinct_addValue _ _ _ hvalue state.tree · h)).bind
        fun tree htree => .ok htree

theorem readStatement_gives (h : AreDistinctMembers state.tree) (t : Text) :
    GivesTree (readStatement state t) := by
  unfold readStatement
  split
  · exact readArrayHeader_gives h _
  · exact readHeader_gives h _
  · exact .ok h
  · exact readPair_gives h t

theorem readStatements_gives (fuel : Nat) (h : AreDistinctMembers state.tree) (t : Text) :
    Gives AreDistinctMembers (readStatements fuel state t) := by
  induction fuel generalizing state t with
  | zero => exact .error _
  | succ fuel ih =>
    unfold readStatements
    split
    · exact .ok h
    · exact ih h _
    · refine (readStatement_gives h _).bind fun found hfound => .bind_any fun t => ?_
      split
      · exact .ok hfound
      · exact ih hfound _
      · exact .error _

/-- **What is read of a document has no key twice**, at any depth. -/
theorem areDistinctMembers_of_read {document : Text} {table : Members}
    (h : read document = .ok table) : AreDistinctMembers table :=
  have hempty : AreDistinctMembers ({} : State).tree := trivial
  readStatements_gives _ hempty _ table h

end Toml

end DiagnosticRelay
