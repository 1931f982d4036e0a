import DiagnosticRelay.Invocation
import DiagnosticRelay.LineGrammar.Rule
import DiagnosticRelay.Proofs.Text.Newline

/-!
# Reading text output is local to lines

A text is read line by line, and no line says anything about another.  There are three ways to say
so, and `diagnostics_local` says all of them.

* Lines that are put together, with whatever endings between them, give what the rules find in each
  of them, in order.  Reading fails with the first line on which a rule fails.
* The two outputs of a checker are read together as if each were read on its own.
* What stands before and behind a line gives what it gives without that line.

The first item is `ofLines_eq_mapM` with the splitter undone; the other two come from
`ofLines_append`, which cuts the reading of a list of lines in two at any place.
-/

namespace DiagnosticRelay

namespace TextReport

/-- Two lists of diagnostics that are read one after the other. -/
def andThen (first second : Except Fault (List Diagnostic)) : Except Fault (List Diagnostic) := do
  let before ← first
  let after ← second
  return before ++ after

@[simp] theorem ok_nil_andThen (second : Except Fault (List Diagnostic)) :
    andThen (.ok []) second = second := by
  cases second <;> rfl

@[simp] theorem andThen_ok_nil (first : Except Fault (List Diagnostic)) :
    andThen first (.ok []) = first := by
  cases first with
  | error fault => rfl
  | ok found => exact congrArg Except.ok (List.append_nil found)

theorem andThen_assoc (first second third : Except Fault (List Diagnostic)) :
    andThen (andThen first second) third = andThen first (andThen second third) := by
  cases first with
  | error fault => rfl
  | ok before =>
    cases second with
    | error fault => rfl
    | ok between =>
      cases third with
      | error fault => rfl
      | ok after => exact congrArg Except.ok (List.append_assoc before between after)

/-- The diagnostic of one line, if any, as a list. -/
def ofLine (directory line : Text) : Except Fault (List Diagnostic) :=
  (LineRule.first directory line).map fun found => (found.map (·.2)).toList

theorem ofLines_cons (directory line : Text) (lines : List Text) :
    ofLines directory (line :: lines)
      = andThen (ofLine directory line) (ofLines directory lines) := by
  rw [ofLines, ofLine]
  cases LineRule.first directory line <;> rfl

/-- A list of lines is read in two parts, cut at any place. -/
theorem ofLines_append (directory : Text) (lines others : List Text) :
    ofLines directory (lines ++ others)
      = andThen (ofLines directory lines) (ofLines directory others) := by
  induction lines with
  | nil => rw [List.nil_append, ofLines, ok_nil_andThen]
  | cons line lines ih => rw [List.cons_append, ofLines_cons, ofLines_cons, ih, andThen_assoc]

/-- Reading lines is trying the rules on each of them and keeping what is found. -/
theorem ofLines_eq_mapM (directory : Text) (lines : List Text) :
    ofLines directory lines
      = (lines.mapM (LineRule.first directory)).map fun found =>
          found.reduceOption.map Prod.snd := by
  induction lines with
  | nil => rfl
  | cons line lines ih =>
    rw [ofLines, ih, List.mapM_cons]
    cases LineRule.first directory line with
    | error fault => rfl
    | ok found =>
      cases lines.mapM (LineRule.first directory) with
      | error fault => rfl
      | ok others => cases found <;> rfl

/-- The empty text is one line in which nothing is found. -/
theorem diagnostics_nil (directory : Text) : diagnostics directory [] = .ok [] := rfl

theorem diagnostics_joinEnded (directory : Text) (ending : Nat → Text.LineEnding)
    {lines : List Text} (h : ∀ line ∈ lines, Text.IsLine line) :
    diagnostics directory (Text.joinEnded ending lines) = ofLines directory lines := by
  cases lines with
  | nil => rfl
  | cons line lines =>
    rw [diagnostics, Text.splitLines_joinEnded ending (List.cons_ne_nil line lines) h]

/-- The two outputs of a checker are read one after the other. -/
theorem diagnostics_combinedOutput (directory : Text) {invocation : Invocation}
    (h : invocation.stdout.getLast? ≠ some (.char '\r')) :
    diagnostics directory invocation.combinedOutput
      = andThen (diagnostics directory invocation.stdout)
          (diagnostics directory invocation.stderr) := by
  obtain ⟨stdout, stderr, exitStatus, startFault⟩ := invocation
  cases stdout with
  | nil =>
    rw [diagnostics_nil, ok_nil_andThen]
    cases stderr <;> rfl
  | cons c stdout =>
    cases stderr with
    | nil =>
      rw [diagnostics_nil, andThen_ok_nil]
      rfl
    | cons d stderr =>
      have hcombined : (⟨c :: stdout, d :: stderr, exitStatus, startFault⟩ :
          Invocation).combinedOutput
          = (c :: stdout) ++ (Text.LineEnding.lf.toText ++ (d :: stderr)) := by
        have hfeed : text "\n" = [.char '\n'] := by decide
        simp [Invocation.combinedOutput, Text.join, Text.LineEnding.toText, hfeed]
      rw [hcombined, diagnostics, Text.splitLines_append fun _ => h, ofLines_append]
      rfl

/-- **Reading text output is local to lines.** -/
theorem diagnostics_local (directory : Text) :
    (∀ (ending : Nat → Text.LineEnding) (lines : List Text), (∀ line ∈ lines, Text.IsLine line) →
      diagnostics directory (Text.joinEnded ending lines)
        = (lines.mapM (LineRule.first directory)).map fun found =>
            found.reduceOption.map Prod.snd) ∧
    (∀ invocation : Invocation, invocation.stdout.getLast? ≠ some (.char '\r') →
      diagnostics directory invocation.combinedOutput
        = andThen (diagnostics directory invocation.stdout)
            (diagnostics directory invocation.stderr)) ∧
    ∀ (ending endingBefore endingAfter : Nat → Text.LineEnding) (before after : List Text)
      (line : Text), (∀ other ∈ before ++ line :: after, Text.IsLine other) →
      diagnostics directory (Text.joinEnded ending (before ++ line :: after))
        = andThen (diagnostics directory (Text.joinEnded endingBefore before))
            (andThen (ofLine directory line)
              (diagnostics directory (Text.joinEnded endingAfter after))) := by
  refine ⟨?_, fun invocation => diagnostics_combinedOutput directory, ?_⟩
  · intro ending lines h
    rw [diagnostics_joinEnded directory ending h, ofLines_eq_mapM]
  · intro ending endingBefore endingAfter before after line h
    have hbefore : ∀ other ∈ before, Text.IsLine other := fun other hother =>
      h other (List.mem_append_left _ hother)
    have hafter : ∀ other ∈ after, Text.IsLine other := fun other hother =>
      h other (List.mem_append_right _ (List.mem_cons_of_mem _ hother))
    rw [diagnostics_joinEnded directory ending h,
      diagnostics_joinEnded directory endingBefore hbefore,
      diagnostics_joinEnded directory endingAfter hafter, ofLines_append, ofLines_cons]

/-- Three lines with different endings and a carriage return inside one of them, the same lines as
two outputs, and the line in the middle between the other two. -/
theorem diagnostics_local_mixed :
    let ending : Nat → Text.LineEnding := fun i => if i = 0 then .crlf else .lf
    let first := text "a.c:1:2: error: x"
    let line := text "one\rtwo"
    let last := text "  at f (b.c:3:4)"
    let found : Diagnostic :=
      { file := text "/p/a.c", message := text "x", severity := .error,
        range := some ⟨⟨1, 2⟩, none⟩ }
    let frame : Diagnostic :=
      { file := text "/p/f (b.c", message := text ")", severity := .note,
        range := some ⟨⟨3, 4⟩, none⟩ }
    let invocation : Invocation :=
      { stdout := text "a.c:1:2: error: x\r\none\rtwo", stderr := last }
    (∀ other ∈ [first, line, last], Text.IsLine other) ∧
      invocation.stdout.getLast? ≠ some (.char '\r') ∧
      diagnostics (text "/p") (text "a.c:1:2: error: x\r\none\rtwo\n  at f (b.c:3:4)")
        = .ok [found, frame] ∧
      diagnostics (text "/p") invocation.combinedOutput
        = andThen (diagnostics (text "/p") invocation.stdout) (.ok [frame]) ∧
      diagnostics (text "/p") (Text.joinEnded ending ([first] ++ line :: [last]))
        = andThen (.ok [found]) (andThen (.ok []) (.ok [frame])) := by
  intro ending first line last found frame invocation
  obtain ⟨hlines, houtputs, haround⟩ := diagnostics_local (text "/p")
  have hline : ∀ other ∈ [first, line, last], Text.IsLine other := by
    rw [List.forall_mem_cons, List.forall_mem_cons, List.forall_mem_singleton]
    exact ⟨⟨by decide, by decide⟩, ⟨by decide, by decide⟩, ⟨by decide, by decide⟩⟩
  have hstdout : invocation.stdout.getLast? ≠ some (.char '\r') := by decide
  refine ⟨hline, hstdout, ?_, houtputs invocation hstdout,
    haround ending ending ending [first] [last] line hline⟩
  rw [show text "a.c:1:2: error: x\r\none\rtwo\n  at f (b.c:3:4)"
    = Text.joinEnded ending [first, line, last] by decide, hlines ending _ hline]
  rfl

end TextReport

end DiagnosticRelay
