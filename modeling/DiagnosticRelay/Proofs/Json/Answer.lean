import DiagnosticRelay.Json.Reader
import DiagnosticRelay.Proofs.Value.Bounded
import DiagnosticRelay.Proofs.Value.Members

/-!
# What the reader answers

Every number of a document comes from digits, and this has two consequences for what the reader
answers.  A value that it gives is bounded: its integers were converted from digits, so they are
short, and its floating-point numbers were rounded into the format, so they are cut off to short
integers.  And where it refuses a document for its digits, which is the one refusal that is not a
defect of the document, there are more of them than are converted: that refusal arises at a single
place, `Numeral.value`, and is passed on unchanged by everything above it.

* `Answers P x` says of a computation `x` of the reader that what it gives has the property `P`, and
  that it is refused for its digits only if they are too many.
* `readAt_answers` carries it through the three functions that call one another, by induction on
  their fuel.  The depth is free, because a container is read one level down.
-/

namespace DiagnosticRelay

/-! ## Objects -/

namespace Members

open Value (AreBoundedMembers IsBounded)

theorem areBoundedMembers_insert {members : Members} (h : AreBoundedMembers members) (key : Text)
    {value : Value} (hvalue : value.IsBounded) : AreBoundedMembers (members.insert key value) := by
  rw [Value.areBoundedMembers_iff] at h ⊢
  intro member hmem
  rcases mem_insert hmem with rfl | hmem
  · exact hvalue
  · exact h member hmem

theorem areBoundedMembers_update {members later : Members} (h : AreBoundedMembers members)
    (hlater : AreBoundedMembers later) : AreBoundedMembers (members.update later) := by
  induction later generalizing members with
  | nil => exact h
  | cons member rest ih =>
    obtain ⟨key, value⟩ := member
    exact ih (areBoundedMembers_insert h key hlater.1) hlater.2

theorem isBounded_ofList {members : List (Text × Value)} (h : AreBoundedMembers members) :
    (Value.object (ofList members)).IsBounded :=
  areBoundedMembers_update trivial h

end Members

namespace Json

/-! ## Answers -/

/-- What is given has a property, and what is refused for its digits has too many. -/
structure Answers {α : Type} (P : α → Prop) (x : Except Failure α) : Prop where
  given : ∀ a, x = .ok a → P a
  refused : ∀ n, x = .error (.tooManyDigits n) → Decimal.digitLimit < n

namespace Answers

variable {α β : Type} {P : α → Prop} {Q : β → Prop} {x : Except Failure α}

theorem ok {a : α} (h : P a) : Answers P (.ok a) where
  given := by
    rintro _ ⟨⟩
    exact h
  refused := by
    rintro _ ⟨⟩

/-- A refusal for anything but digits. -/
theorem error {failure : Failure} (h : ∀ n, failure ≠ .tooManyDigits n) :
    Answers P (.error failure) where
  given := by
    rintro _ ⟨⟩
  refused := by
    rintro n ⟨⟩
    exact absurd rfl (h n)

theorem misplaced (problem : Problem) (remaining : Nat) :
    Answers P (.error (.misplaced problem remaining)) :=
  error fun _ => Failure.noConfusion

theorem map (hx : Answers P x) {f : α → β} (hf : ∀ a, P a → Q (f a)) : Answers Q (x.map f) where
  given := by
    intro b h
    obtain ⟨a, hfound, rfl⟩ := map_eq_ok.mp h
    exact hf a (hx.given a hfound)
  refused := by
    intro n h
    cases x with
    | ok a => cases h
    | error failure => exact hx.refused n (by rw [Except.error.inj h])

/-- A refusal is passed on as it is. -/
theorem error_of_eq (hx : Answers P x) {failure : Failure} (h : x = .error failure) :
    Answers Q (.error failure) where
  given := by
    rintro _ ⟨⟩
  refused n hn := hx.refused n (h.trans (by rw [Except.error.inj hn]))

end Answers

/-! ## Strings -/

theorem escapeAt_answers (rest : Text) : Answers (fun _ => True) (escapeAt rest) where
  given _ _ := trivial
  refused := by
    intro n h
    unfold escapeAt at h
    repeat' split at h
    all_goals cases h

theorem readString_answers (opening : Text) (skip : Nat) (t : Text) :
    Answers (fun _ => True) (readString opening skip t) := by
  induction t generalizing skip with
  | nil =>
    rw [readString]
    exact .misplaced _ _
  | cons c rest ih =>
    cases skip with
    | succ skip =>
      rw [readString]
      exact ih skip
    | zero =>
      rw [readString]
      split
      · exact .ok trivial
      · split
        · split
          · exact .misplaced _ _
          · split
            · next failure hescape => exact (escapeAt_answers rest).error_of_eq hescape
            · exact (ih _).map fun _ _ => trivial
        · split
          · exact .misplaced _ _
          · exact (ih 0).map fun _ _ => trivial

/-! ## Numbers -/

theorem lt_of_mem_takeDigits {t : Text} {d : Nat} (h : d ∈ (takeDigits t).1) : d < 10 := by
  induction t with
  | nil => cases h
  | cons c rest ih =>
    rw [takeDigits] at h
    split at h
    · next value hvalue =>
      rcases List.mem_cons.mp h with rfl | h
      · rw [CodePoint.asciiDigit?] at hvalue
        split at hvalue
        · cases hvalue
          omega
        · cases hvalue
      · exact ih h
    · cases h

theorem lt_of_mem_whole {t after : Text} {numeral : Numeral}
    (h : takeNumeral? t = some (numeral, after)) : ∀ d ∈ numeral.whole, d < 10 := by
  unfold takeNumeral? at h
  simp only [Option.ite_none_left_eq_some] at h
  obtain ⟨-, h⟩ := h
  cases h
  intro d hd
  dsimp only at hd
  split at hd
  · rw [List.mem_singleton.mp hd]
    decide
  · exact lt_of_mem_takeDigits hd

/-- The one place where a refusal for digits arises. -/
theorem value_answers {numeral : Numeral} (hwhole : ∀ d ∈ numeral.whole, d < 10) :
    Answers Value.IsBounded numeral.value := by
  rw [Numeral.value.eq_def]
  split
  · cases hread : Decimal.readDigits numeral.whole with
    | ok n => exact .ok (P := Value.IsBounded) (isShort_signed (lt_of_readDigits hwhole hread) _)
    | error digits =>
      constructor
      · rintro _ ⟨⟩
      · rintro _ ⟨⟩
        exact lt_of_readDigits_eq_error hread
  · exact .ok (P := Value.IsBounded) (Binary64.isModerate_ofScientific _ _ _)

theorem isModerate_of_takeNonFinite? {t name after : Text} {x : Binary64}
    (h : takeNonFinite? t = some (name, x, after)) : x.IsModerate := by
  obtain ⟨literal, hliteral, hfound⟩ := List.exists_of_findSome?_eq_some h
  obtain ⟨_, _, hx⟩ := Option.map_eq_some_iff.mp hfound
  cases hx
  rcases List.mem_cons.mp hliteral with rfl | hliteral
  · exact Binary64.isModerate_nan
  · rcases List.mem_cons.mp hliteral with rfl | hliteral
    · exact Binary64.isModerate_infinite false
    · rw [List.mem_singleton.mp hliteral]
      exact Binary64.isModerate_infinite true

theorem readScalar_answers (literals : Literals) (t : Text) :
    Answers (fun found => found.1.IsBounded) (readScalar literals t) := by
  unfold readScalar
  split
  · exact .ok trivial
  · split
    · exact .ok trivial
    · split
      · exact .ok trivial
      · split
        · next name x after hfound =>
          split
          · exact .error fun _ => Failure.noConfusion
          · exact .ok (isModerate_of_takeNonFinite? hfound)
        · split
          · next numeral after htaken =>
            exact (value_answers (lt_of_mem_whole htaken)).map fun _ h => h
          · exact .misplaced _ _

/-! ## Containers -/

variable (literals : Literals)

/-- With a given fuel, values, items and members are bounded, and are refused for their digits only
if they are too many. -/
def ReadAtAnswers (fuel : Nat) : Prop :=
  (∀ depth t, Answers (fun found => found.1.IsBounded) (readValue literals fuel depth t)) ∧
    (∀ depth t,
      Answers (fun found => Value.AreBounded found.1) (readItems literals fuel depth t)) ∧
    ∀ depth t,
      Answers (fun found => Value.AreBoundedMembers found.1) (readMembers literals fuel depth t)

variable {literals} {fuel : Nat}

theorem readValue_answers (ih : ReadAtAnswers literals fuel) (depth : Nat) (t : Text) :
    Answers (fun found => found.1.IsBounded) (readValue literals (fuel + 1) depth t) := by
  rw [readValue.eq_def]
  simp only
  split
  · exact (readString_answers _ _ _).map fun _ _ => trivial
  · split
    · exact .error fun _ => Failure.noConfusion
    · split
      · exact .ok trivial
      · exact (ih.2.1 _ _).map fun _ h => h
  · split
    · exact .error fun _ => Failure.noConfusion
    · split
      · exact .ok trivial
      · exact (ih.2.2 _ _).map fun _ h => Members.isBounded_ofList h
  · exact readScalar_answers literals t

theorem readItems_answers (ih : ReadAtAnswers literals fuel) (depth : Nat) (t : Text) :
    Answers (fun found => Value.AreBounded found.1)
      (readItems literals (fuel + 1) depth t) := by
  rw [readItems]
  split
  · next failure hitem => exact (ih.1 depth t).error_of_eq hitem
  · next item rest hitem =>
    have hbounded := (ih.1 depth t).given _ hitem
    split
    · exact .ok ⟨hbounded, trivial⟩
    · exact (ih.2.1 _ _).map fun _ h => ⟨hbounded, h⟩
    · exact .misplaced _ _

theorem readMembers_answers (ih : ReadAtAnswers literals fuel) (depth : Nat) (t : Text) :
    Answers (fun found => Value.AreBoundedMembers found.1)
      (readMembers literals (fuel + 1) depth t) := by
  rw [readMembers.eq_def]
  simp only
  split
  · split
    · next failure hkey => exact (readString_answers _ _ _).error_of_eq hkey
    · split
      · split
        · next failure hvalue => exact (ih.1 _ _).error_of_eq hvalue
        · next value rest hvalue =>
          have hbounded := (ih.1 _ _).given _ hvalue
          split
          · exact .ok ⟨hbounded, trivial⟩
          · exact (ih.2.2 _ _).map fun _ h => ⟨hbounded, h⟩
          · exact .misplaced _ _
      · exact .misplaced _ _
  · exact .misplaced _ _

theorem readAt_answers : ∀ fuel, ReadAtAnswers literals fuel
  | 0 => by
    refine ⟨fun depth t => ?_, fun depth t => ?_, fun depth t => ?_⟩
    · rw [readValue]
      exact .misplaced _ _
    · rw [readItems]
      exact .misplaced _ _
    · rw [readMembers]
      exact .misplaced _ _
  | fuel + 1 =>
    have ih := readAt_answers fuel
    ⟨readValue_answers ih, readItems_answers ih, readMembers_answers ih⟩

/-! ## Documents -/

theorem read_answers (document : Text) : Answers Value.IsBounded (read document) := by
  rw [read, readWith]
  split
  · exact .misplaced _ _
  · split
    · next failure hvalue => exact ((readAt_answers _).1 _ _).error_of_eq hvalue
    · next value rest hvalue =>
      split
      · exact .ok (((readAt_answers _).1 _ _).given _ hvalue)
      · exact .misplaced _ _

/-- **What is read is bounded.** -/
theorem isBounded_of_read {document : Text} {value : Value} (h : read document = .ok value) :
    value.IsBounded :=
  (read_answers document).given value h

/-- A document is refused for its digits only if there are more of them than are converted. -/
theorem limit_lt_of_read_eq_tooManyDigits {document : Text} {n : Nat}
    (h : read document = .error (.tooManyDigits n)) : Decimal.digitLimit < n :=
  (read_answers document).refused n h

end Json

end DiagnosticRelay
