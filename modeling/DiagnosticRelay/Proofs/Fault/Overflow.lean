import DiagnosticRelay.Fault

/-!
# Computations that fail on digits only

Between the output of a checker and its diagnostics almost nothing can fail.  The exception is
the conversion of digits: a run of more than `Decimal.digitLimit` digits is refused, and the
refusal is passed on by whatever called for the number.  Numbers that were converted can be written
again, so the way back from a number to its digits adds no failure.  Hence the failures of a reader
are described by one condition on its input, and that condition is put together in the same way as
the reader.

* `OverflowsWhen x p` says that `x` fails exactly if `p` holds, and then with `tooManyDigits`
  of a number above the limit.
* `OverflowsWhen.bind` and `OverflowsWhen.map` follow the two ways in which readers are composed:
  a sequence fails if its first part does, or if the first part gives a value on which the second
  part fails.

`bind_eq_ok` and `map_eq_ok` open what has succeeded, and `bind_eq_error` what has failed.
-/

namespace DiagnosticRelay

variable {α β : Type}

theorem bind_eq_ok {ε : Type} {x : Except ε α} {f : α → Except ε β} {b : β} :
    (x >>= f) = .ok b ↔ ∃ a, x = .ok a ∧ f a = .ok b := by
  cases x <;> simp [bind, Except.bind]

theorem bind_eq_error {ε : Type} {x : Except ε α} {f : α → Except ε β} {fault : ε} :
    (x >>= f) = .error fault ↔ x = .error fault ∨ ∃ a, x = .ok a ∧ f a = .error fault := by
  cases x <;> simp [bind, Except.bind]

theorem map_eq_ok {ε : Type} {x : Except ε α} {f : α → β} {b : β} :
    x.map f = .ok b ↔ ∃ a, x = .ok a ∧ f a = b := by
  cases x <;> simp [Except.map]

/-- A computation that fails exactly under a condition, and only by a run of digits beyond the
limit. -/
def OverflowsWhen (x : Except Fault α) (p : Prop) : Prop :=
  ((∃ a, x = .ok a) ∧ ¬p) ∨ ((∃ n, Decimal.digitLimit < n ∧ x = .error (.tooManyDigits n)) ∧ p)

namespace OverflowsWhen

variable {x : Except Fault α} {p q : Prop}

theorem ok (a : α) : OverflowsWhen (.ok a) False := Or.inl ⟨⟨a, rfl⟩, id⟩

theorem error {n : Nat} (h : Decimal.digitLimit < n) :
    OverflowsWhen (.error (.tooManyDigits n) : Except Fault α) True :=
  Or.inr ⟨⟨n, h, rfl⟩, trivial⟩

/-- The condition may be said in other words. -/
theorem congr (h : OverflowsWhen x p) (hpq : p ↔ q) : OverflowsWhen x q := by
  rcases h with ⟨hok, hp⟩ | ⟨herror, hp⟩
  · exact Or.inl ⟨hok, fun hq => hp (hpq.mpr hq)⟩
  · exact Or.inr ⟨herror, hpq.mp hp⟩

theorem error_iff (h : OverflowsWhen x p) : (∃ fault, x = .error fault) ↔ p := by
  rcases h with ⟨⟨a, rfl⟩, hp⟩ | ⟨⟨n, _, rfl⟩, hp⟩
  · simp [hp]
  · simp [hp]

theorem ok_iff (h : OverflowsWhen x p) : (∃ a, x = .ok a) ↔ ¬p := by
  rcases h with ⟨⟨a, rfl⟩, hp⟩ | ⟨⟨n, _, rfl⟩, hp⟩
  · simp [hp]
  · simp [hp]

/-- The conversion through which every computation of the library fails that fails on digits. -/
theorem readDigits (f : Nat → α) (digits : List Nat) :
    OverflowsWhen
      (match Decimal.readDigits digits with
        | .ok n => .ok (f n)
        | .error count => .error (.tooManyDigits count))
      (Decimal.digitLimit < digits.length) := by
  rw [Decimal.readDigits]
  by_cases hlimit : digits.length ≤ Decimal.digitLimit
  · rw [if_pos hlimit]
    exact (ok _).congr (iff_of_false id (by omega))
  · rw [if_neg hlimit]
    exact (error (by omega)).congr (iff_of_true trivial (by omega))

/-- The one fault there is. -/
theorem eq_tooManyDigits (h : OverflowsWhen x p) {fault : Fault} (hx : x = .error fault) :
    ∃ n, Decimal.digitLimit < n ∧ fault = .tooManyDigits n := by
  rcases h with ⟨⟨a, rfl⟩, _⟩ | ⟨⟨n, hn, rfl⟩, _⟩
  · cases hx
  · exact ⟨n, hn, (Except.error.inj hx).symm⟩

/-- A sequence fails in its first part, or on the value that the first part gives. -/
theorem bind {f : α → Except Fault β} {r : α → Prop} (hx : OverflowsWhen x p)
    (hf : ∀ a, x = .ok a → OverflowsWhen (f a) (r a)) :
    OverflowsWhen (x >>= f) (p ∨ ∃ a, x = .ok a ∧ r a) := by
  rcases hx with ⟨⟨a, rfl⟩, hp⟩ | ⟨⟨n, hn, rfl⟩, hp⟩
  · refine (hf a rfl).congr ⟨fun h => Or.inr ⟨a, rfl, h⟩, ?_⟩
    rintro (h | ⟨b, hb, h⟩)
    · exact absurd h hp
    · rw [Except.ok.inj hb]
      exact h
  · exact Or.inr ⟨⟨n, hn, rfl⟩, Or.inl hp⟩

/-- A sequence whose second part has a condition that does not depend on the first part. -/
theorem bind_const {f : α → Except Fault β} (hx : OverflowsWhen x p)
    (hf : ∀ a, OverflowsWhen (f a) q) : OverflowsWhen (x >>= f) (p ∨ q) := by
  refine (hx.bind fun a _ => hf a).congr ⟨?_, ?_⟩
  · rintro (h | ⟨_, _, h⟩)
    · exact Or.inl h
    · exact Or.inr h
  · rintro (h | h)
    · exact Or.inl h
    · by_cases hp : p
      · exact Or.inl hp
      · obtain ⟨a, ha⟩ := hx.ok_iff.mpr hp
        exact Or.inr ⟨a, ha, h⟩

theorem map (hx : OverflowsWhen x p) (f : α → β) : OverflowsWhen (x.map f) p := by
  rcases hx with ⟨⟨a, rfl⟩, hp⟩ | ⟨⟨n, hn, rfl⟩, hp⟩
  · exact Or.inl ⟨⟨f a, rfl⟩, hp⟩
  · exact Or.inr ⟨⟨n, hn, rfl⟩, hp⟩

end OverflowsWhen

end DiagnosticRelay
