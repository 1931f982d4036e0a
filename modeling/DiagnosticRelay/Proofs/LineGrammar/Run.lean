import DiagnosticRelay.LineGrammar.Frame
import DiagnosticRelay.LineGrammar.Rule
import DiagnosticRelay.Proofs.Text.DecimalDigit

/-!
# Runs of digits in a line

A coordinate of a line is a colon and a run of decimal digits that is not empty and goes as far as
it can (`takeColonDigits?_eq_some_iff`); a frame holds two of them (`takePlace?_eq_some_iff`).  A
run is bounded by whatever is not a digit, and so it can be told from what follows it
(`Text.append_inj_of_head?`, which holds of any class of code points).

A run stands for the number `numberOf`, digit by digit whatever script each digit is from, and
`coordinate_eq` says that it is read as this number unless it has too many digits.
-/

namespace DiagnosticRelay

namespace Decimal

/-- The number that a run of decimal digits stands for. -/
def numberOf (run : Text) : Nat := valueOf (run.filterMap CodePoint.decimalValue?)

theorem leadingDigits_eq_filterMap {run : Text} (h : ∀ c ∈ run, c.isDecimal = true) :
    leadingDigits run = run.filterMap CodePoint.decimalValue? := by
  induction run with
  | nil => rfl
  | cons c run ih =>
    obtain ⟨hc, hrun⟩ := List.forall_mem_cons.mp h
    obtain ⟨d, hd⟩ := Option.isSome_iff_exists.mp hc
    rw [leadingDigits, List.filterMap_cons, hd]
    simp only [ih hrun]

end Decimal

namespace Text

variable {p : CodePoint → Bool} {run other rest tail : Text}

/-- Code points of a class at the head of a text are no more than those up to which the class
goes. -/
theorem length_le_of_append_eq (hrest : ∀ c ∈ rest.head?, p c = false)
    (hother : ∀ c ∈ other, p c = true) (h : run ++ rest = other ++ tail) :
    other.length ≤ run.length := by
  rcases List.append_eq_append_iff.mp h with ⟨more, hmore, htail⟩ | ⟨more, rfl, -⟩
  · cases more with
    | nil => rw [hmore, List.append_nil]
    | cons c more =>
      have hc := hrest c (by rw [htail]; rfl)
      rw [hother c (by rw [hmore]; simp)] at hc
      cases hc
  · rw [List.length_append]
    exact Nat.le_add_right _ _

/-- Code points of a class at the head of a text can be told from what follows them, if that does
not begin with one of the class. -/
theorem append_inj_of_head? (hrun : ∀ c ∈ run, p c = true) (hother : ∀ c ∈ other, p c = true)
    (hrest : ∀ c ∈ rest.head?, p c = false) (htail : ∀ c ∈ tail.head?, p c = false)
    (h : run ++ rest = other ++ tail) : run = other ∧ rest = tail :=
  List.append_inj h (Nat.le_antisymm (length_le_of_append_eq htail hrun h.symm)
    (length_le_of_append_eq hrest hother h))

end Text

namespace LineGrammar

/-- Decimal digits of any script, at least one. -/
structure IsRun (run : Text) : Prop where
  nonempty : run ≠ []
  decimal : ∀ c ∈ run, c.isDecimal = true

/-- A text that does not go on with a decimal digit. -/
def StopsRun (rest : Text) : Prop := ∀ c tail, rest = c :: tail → c.isDecimal = false

theorem stopsRun_cons {c : CodePoint} (h : c.isDecimal = false) (tail : Text) :
    StopsRun (c :: tail) := by
  rintro d rest hrest
  rw [← (List.cons.inj hrest).1]
  exact h

theorem stopsRun_colon (tail : Text) : StopsRun (.char ':' :: tail) :=
  stopsRun_cons (by decide) tail

theorem leadingDigits_of_stopsRun {rest : Text} (h : StopsRun rest) :
    Decimal.leadingDigits rest = [] := by
  cases rest with
  | nil => rfl
  | cons c tail => exact Decimal.leadingDigits_cons_of_not_isDecimal (h c tail rfl) tail

/-- A run as far as it goes, and what follows it. -/
theorem takeDigits_append {run rest : Text} (hrun : ∀ c ∈ run, c.isDecimal = true)
    (hrest : StopsRun rest) : takeDigits (run ++ rest) = (Decimal.leadingDigits run, rest) := by
  rw [takeDigits, Decimal.leadingDigits_append hrun, leadingDigits_of_stopsRun hrest,
    List.append_nil, Decimal.length_leadingDigits_of_isDecimal hrun, List.drop_left]

/-- Every text is a run, perhaps empty, and a text that does not go on with a digit. -/
theorem exists_run (t : Text) : ∃ run rest, t = run ++ rest ∧
    (∀ c ∈ run, c.isDecimal = true) ∧ StopsRun rest := by
  refine ⟨t.takeWhile CodePoint.isDecimal, t.dropWhile CodePoint.isDecimal,
    List.takeWhile_append_dropWhile.symm, ?_, ?_⟩
  · exact fun c hc => List.all_eq_true.mp List.all_takeWhile c hc
  · intro c tail h
    have hhead := List.head?_dropWhile_not CodePoint.isDecimal t
    rw [h] at hhead
    simpa using hhead

theorem leadingDigits_eq_nil_iff {run : Text} (h : ∀ c ∈ run, c.isDecimal = true) :
    Decimal.leadingDigits run = [] ↔ run = [] := by
  rw [← List.length_eq_zero_iff, Decimal.length_leadingDigits_of_isDecimal h,
    List.length_eq_zero_iff]

/-- A run does not hold the colon that stands behind another one. -/
theorem IsRun.ne_append_colon {run first more : Text} (h : IsRun run) :
    run ≠ first ++ .char ':' :: more := by
  rintro rfl
  have hcolon := h.decimal (.char ':') (by simp)
  exact absurd hcolon (by decide)

theorem IsRun.not_stopsRun_append {run : Text} (h : IsRun run) (rest : Text) :
    ¬StopsRun (run ++ rest) := by
  intro hstops
  obtain ⟨c, tail, rfl⟩ := List.exists_cons_of_ne_nil h.nonempty
  have hc := hstops c (tail ++ rest) rfl
  rw [h.decimal c (List.mem_cons_self ..)] at hc
  cases hc

theorem StopsRun.head? {rest : Text} (h : StopsRun rest) :
    ∀ c ∈ rest.head?, c.isDecimal = false := by
  intro c hc
  obtain ⟨tail, rfl⟩ := List.head?_eq_some_iff.mp hc
  exact h c tail rfl

/-- A coordinate is a colon and a run of digits that goes as far as it can. -/
theorem takeColonDigits?_eq_some_iff {t rest : Text} {digits : List Nat} :
    takeColonDigits? t = some (digits, rest) ↔
      ∃ run, t = .char ':' :: (run ++ rest) ∧ IsRun run ∧ StopsRun rest ∧
        digits = Decimal.leadingDigits run := by
  constructor
  · intro h
    unfold takeColonDigits? at h
    split at h
    · next after =>
      obtain ⟨run, tail, rfl, hrun, htail⟩ := exists_run after
      rw [takeDigits_append hrun htail] at h
      split at h
      · cases h
      · next found others hempty heq =>
        obtain ⟨hdigits, rfl⟩ := Prod.mk.inj (Option.some.inj h)
        obtain ⟨rfl, rfl⟩ := Prod.mk.inj heq
        refine ⟨run, rfl, ⟨?_, hrun⟩, htail, hdigits.symm⟩
        rintro rfl
        exact hempty rfl
    · cases h
  · rintro ⟨run, rfl, hrun, hrest, rfl⟩
    have hne := mt (leadingDigits_eq_nil_iff hrun.decimal).mp hrun.nonempty
    simp only [takeColonDigits?, takeDigits_append hrun.decimal hrest]

/-- A place is two coordinates. -/
theorem takePlace?_eq_some_iff {t after : Text} {first second : List Nat} :
    takePlace? t = some (first, second, after) ↔
      ∃ row column, t = .char ':' :: (row ++ .char ':' :: (column ++ after)) ∧ IsRun row ∧
        IsRun column ∧ StopsRun after ∧ first = Decimal.leadingDigits row ∧
        second = Decimal.leadingDigits column := by
  constructor
  · intro h
    obtain ⟨⟨_, afterRow⟩, hfirst, h⟩ := Option.bind_eq_some_iff.mp h
    obtain ⟨⟨_, afterColumn⟩, hsecond, h⟩ := Option.bind_eq_some_iff.mp h
    cases h
    obtain ⟨row, rfl, hrow, -, rfl⟩ := takeColonDigits?_eq_some_iff.mp hfirst
    obtain ⟨column, rfl, hcolumn, hafter, rfl⟩ := takeColonDigits?_eq_some_iff.mp hsecond
    exact ⟨row, column, rfl, hrow, hcolumn, hafter, rfl, rfl⟩
  · rintro ⟨row, column, rfl, hrow, hcolumn, hafter, rfl, rfl⟩
    rw [takePlace?, takeColonDigits?_eq_some_iff.mpr ⟨row, rfl, hrow, stopsRun_colon _, rfl⟩]
    simp only [Option.bind_eq_bind, Option.bind_some]
    rw [takeColonDigits?_eq_some_iff.mpr ⟨column, rfl, hcolumn, hafter, rfl⟩]
    rfl

/-- There is a place wherever there are two runs, also if the second one goes on. -/
theorem takePlace?_ne_none {row column : Text} (hrow : IsRun row) (hcolumn : IsRun column)
    (after : Text) :
    takePlace? (.char ':' :: (row ++ .char ':' :: (column ++ after))) ≠ none := by
  obtain ⟨more, rest, rfl, hmore, hrest⟩ := exists_run after
  have hrun : IsRun (column ++ more) :=
    ⟨fun h => hcolumn.nonempty (List.append_eq_nil_iff.mp h).1, fun c hc =>
      (List.mem_append.mp hc).elim (hcolumn.decimal c) (hmore c)⟩
  rw [takePlace?_eq_some_iff.mpr
    ⟨row, column ++ more, by rw [List.append_assoc], hrow, hrun, hrest, rfl, rfl⟩]
  exact Option.some_ne_none _

/-- Where a run and a colon begin a text that has a colon at a given place, the colon is that one,
or both lie before it. -/
theorem run_colon_cases {run rest before after : Text} (hrun : ∀ c ∈ run, c.isDecimal = true)
    (h : run ++ .char ':' :: rest = before ++ .char ':' :: after) :
    (before = run ∧ rest = after) ∨
      ∃ more, before = run ++ .char ':' :: more ∧ rest = more ++ .char ':' :: after := by
  rcases List.append_eq_append_iff.mp h with ⟨more, hbefore, hrest⟩ | ⟨more, hmore, hafter⟩
  · cases more with
    | nil =>
      rw [List.append_nil] at hbefore
      exact Or.inl ⟨hbefore, (List.cons.inj hrest).2⟩
    | cons c more =>
      obtain ⟨rfl, htail⟩ := List.cons.inj hrest
      exact Or.inr ⟨more, hbefore, htail⟩
  · cases more with
    | nil =>
      rw [List.append_nil] at hmore
      exact Or.inl ⟨hmore.symm, (List.cons.inj hafter).2.symm⟩
    | cons c more =>
      -- a colon would be one of the digits
      obtain ⟨rfl, -⟩ := List.cons.inj hafter
      have hcolon := hrun (.char ':') (by rw [hmore]; simp)
      exact absurd hcolon (by decide)

end LineGrammar

namespace LineRule

open LineGrammar

/-- A run is read as the number that it stands for, unless it has too many digits. -/
theorem coordinate_eq {run : Text} (h : IsRun run) :
    coordinate (Decimal.leadingDigits run)
      = if run.length ≤ Decimal.digitLimit then .ok (Decimal.numberOf run : Int)
        else .error (.tooManyDigits run.length) := by
  rw [coordinate, Decimal.readDigits, Decimal.length_leadingDigits_of_isDecimal h.decimal,
    Decimal.leadingDigits_eq_filterMap h.decimal]
  by_cases hlimit : run.length ≤ Decimal.digitLimit
  · simp only [if_pos hlimit, Decimal.numberOf]
  · simp only [if_neg hlimit]

end LineRule

end DiagnosticRelay
