import DiagnosticRelay.LineGrammar.Rule
import DiagnosticRelay.Proofs.Fault.Overflow

/-!
# Lines with too many digits

A rule of the line grammar takes one or two runs of digits out of a line and converts them.  The
cut of the line does not depend on how long the runs are, so a rule first fits and may then fail,
and the first rule that fits keeps the others from being tried.  Hence a line fails exactly if the
first rule that fits it takes a run of more than `Decimal.digitLimit` digits, and a text fails
exactly if one of its lines does.

* `LineRule.runs?` are the runs that a rule takes, if it fits.
* `IsOverlongLine` is the condition on a line; `diagnostics_overflows` carries it to texts.
-/

namespace DiagnosticRelay

open LineGrammar

namespace LineRule

/-- The runs of digits that a rule takes out of a line, by the values of the digits, if the rule
fits the line. -/
def runs? : LineRule → Text → Option (List (List Nat))
  | .locationWithColumn, line => (location? true line).map fun location =>
      location.row :: location.column.toList
  | .locationWithoutColumn, line => (location? false line).map fun location =>
      location.row :: location.column.toList
  | .stackFrame, line => (frame? line).map fun frame => [frame.row, frame.column]

/-- Whether some run of a list has more digits than are converted. -/
def HasLongRun (runs : List (List Nat)) : Prop := ∃ run ∈ runs, Decimal.digitLimit < run.length

theorem not_hasLongRun_nil : ¬ HasLongRun [] := by
  rintro ⟨run, h, -⟩
  exact absurd h (List.not_mem_nil)

theorem hasLongRun_cons (run : List Nat) (runs : List (List Nat)) :
    HasLongRun (run :: runs) ↔ Decimal.digitLimit < run.length ∨ HasLongRun runs := by
  simp [HasLongRun]

theorem coordinate_overflows (digits : List Nat) :
    OverflowsWhen (coordinate digits) (Decimal.digitLimit < digits.length) :=
  OverflowsWhen.readDigits Int.ofNat digits

theorem ofLocation_overflows (directory : Text) (location : Location) :
    OverflowsWhen (ofLocation directory location)
      (HasLongRun (location.row :: location.column.toList)) := by
  obtain ⟨path, row, column, token, message⟩ := location
  rw [hasLongRun_cons]
  cases column with
  | none =>
    refine ((coordinate_overflows row).bind_const fun first => OverflowsWhen.ok _).congr ?_
    rw [Option.toList_none, or_false, or_iff_left not_hasLongRun_nil]
  | some digits =>
    refine ((coordinate_overflows row).bind_const fun first =>
      (coordinate_overflows digits).bind_const fun second => OverflowsWhen.ok _).congr ?_
    rw [Option.toList_some, hasLongRun_cons, or_false, or_iff_left not_hasLongRun_nil]

theorem ofFrame_overflows (directory : Text) (frame : Frame) :
    OverflowsWhen (ofFrame directory frame) (HasLongRun [frame.row, frame.column]) := by
  refine ((coordinate_overflows frame.row).bind_const fun row =>
    (coordinate_overflows frame.column).bind_const fun column => OverflowsWhen.ok _).congr ?_
  rw [or_false, hasLongRun_cons, hasLongRun_cons, or_iff_left not_hasLongRun_nil]

/-- A rule that does not fit gives nothing, and one that fits fails on a long run only. -/
theorem apply_cases (directory : Text) (rule : LineRule) (line : Text) :
    (rule.runs? line = none ∧ rule.apply directory line = .ok none) ∨
      ∃ runs found, rule.runs? line = some runs ∧ rule.apply directory line = found.map some ∧
        OverflowsWhen found (HasLongRun runs) := by
  cases rule with
  | locationWithColumn =>
    simp only [runs?, apply]
    cases location? true line with
    | none => exact Or.inl ⟨rfl, rfl⟩
    | some location => exact Or.inr ⟨_, _, rfl, rfl, ofLocation_overflows directory location⟩
  | locationWithoutColumn =>
    simp only [runs?, apply]
    cases location? false line with
    | none => exact Or.inl ⟨rfl, rfl⟩
    | some location => exact Or.inr ⟨_, _, rfl, rfl, ofLocation_overflows directory location⟩
  | stackFrame =>
    simp only [runs?, apply]
    cases frame? line with
    | none => exact Or.inl ⟨rfl, rfl⟩
    | some frame => exact Or.inr ⟨_, _, rfl, rfl, ofFrame_overflows directory frame⟩

/-- A rule accepts the lines that it fits, also those that it fails on. -/
theorem apply_ne_none_iff (directory : Text) (rule : LineRule) (line : Text) :
    rule.apply directory line ≠ .ok none ↔ (rule.runs? line).isSome = true := by
  rcases apply_cases directory rule line with ⟨hruns, happly⟩ | ⟨runs, found, hruns, happly, -⟩
  · simp [hruns, happly]
  · refine iff_of_true (fun h => ?_) (by rw [hruns]; rfl)
    obtain ⟨_, -, hnone⟩ := map_eq_ok.mp (happly.symm.trans h)
    cases hnone

/-- A rule fails on the lines from which it takes a run with too many digits. -/
theorem apply_error_iff (directory : Text) {rule : LineRule} {line : Text} {runs : List (List Nat)}
    (h : rule.runs? line = some runs) :
    (∃ fault, rule.apply directory line = .error fault) ↔ HasLongRun runs := by
  rcases apply_cases directory rule line with ⟨hruns, -⟩ | ⟨runs', found, hruns, happly, hfound⟩
  · rw [hruns] at h
    cases h
  · rw [hruns] at h
    cases h
    rw [happly]
    exact (hfound.map some).error_iff

theorem firstOf_overflows (directory line : Text) (rules : List LineRule) :
    OverflowsWhen (firstOf directory line rules)
      (HasLongRun ((rules.findSome? fun rule => rule.runs? line).getD [])) := by
  induction rules with
  | nil => exact (OverflowsWhen.ok none).congr (iff_of_false id not_hasLongRun_nil)
  | cons rule rules ih =>
    rw [firstOf, List.findSome?_cons]
    rcases apply_cases directory rule line with
      ⟨hruns, happly⟩ | ⟨runs, found, hruns, happly, hfound⟩
    · rw [hruns, happly]
      exact ih
    · -- a rule that fits decides, and the rules after it are not tried
      rw [hruns, happly]
      rcases hfound with ⟨⟨diagnostic, rfl⟩, hlong⟩ | ⟨⟨n, hn, rfl⟩, hlong⟩
      · exact Or.inl ⟨⟨some (rule, diagnostic), rfl⟩, hlong⟩
      · exact Or.inr ⟨⟨n, hn, rfl⟩, hlong⟩

end LineRule

namespace TextReport

/-- A line from which the first rule that fits takes a run with too many digits. -/
def IsOverlongLine (line : Text) : Prop :=
  LineRule.HasLongRun ((LineRule.all.findSome? fun rule => rule.runs? line).getD [])

theorem ofLines_overflows (directory : Text) (lines : List Text) :
    OverflowsWhen (ofLines directory lines) (∃ line ∈ lines, IsOverlongLine line) := by
  induction lines with
  | nil => exact (OverflowsWhen.ok []).congr (by simp)
  | cons line lines ih =>
    refine ((LineRule.firstOf_overflows directory line LineRule.all).bind_const fun found =>
      ih.bind_const fun others => OverflowsWhen.ok _).congr ?_
    simp only [or_false, List.mem_cons, exists_eq_or_imp]
    rfl

theorem diagnostics_overflows (directory output : Text) :
    OverflowsWhen (diagnostics directory output)
      (∃ line ∈ Text.splitLines output, IsOverlongLine line) :=
  ofLines_overflows directory (Text.splitLines output)

end TextReport

end DiagnosticRelay
