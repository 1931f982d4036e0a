import DiagnosticRelay.Proofs.CapturedOutput.FixedPoint
import DiagnosticRelay.Proofs.Json.Ascii

/-!
# When what is printed is JSON

The parse command prints JSON that it means to read itself.  One thing can get into its document
that is not JSON: a number that is not finite.  The reader refuses the literals of such numbers, but
it rounds decimals, and a decimal beyond the format is rounded to infinity.  If it is the code of a
record it becomes the code of a diagnostic, and the writer, which has no check of its own,
prints the literal that the reader refuses.

`read_printed_eq` is the whole truth about what is printed, for whatever was read: if some code is
not finite, the first such code is refused by its literal, and else the diagnostics are read again.
A finite code is read as a number, and is not compared with the code that was printed.
-/

namespace DiagnosticRelay

open Text (joinHalves)

namespace Code

/-- The number that a code is, if it is a number that is not finite. -/
def nonFinite? : Code → Option Binary64
  | .float x => if x.isFinite then none else some x
  | _ => none

/-- A code that was written and read again. -/
def reread : Code → Code
  | .str s => .str (joinHalves s)
  | .int z => .int z
  | .float x => .float x.reread

theorem nonFinite?_eq_none_iff {code : Code} :
    code.nonFinite? = none ↔ ∀ x, code = .float x → x.isFinite = true := by
  cases code with
  | str | int => simp [nonFinite?]
  | float x => simp [nonFinite?]

/-- The value of a code is read, unless it is refused. -/
theorem reread_value (code : Code) :
    Json.reread .finite code.value = match code.nonFinite? with
      | some x => .error (.nonFinite (Json.writeFloat x))
      | none => .ok code.reread.value := by
  cases code with
  | str | int => rfl
  | float x =>
    rw [value, Json.reread_float, nonFinite?]
    split <;> rfl

theorem reread_ofOption (code : Option Code) :
    Json.reread .finite (.ofOption Code.value code) = match code.bind nonFinite? with
      | some x => .error (.nonFinite (Json.writeFloat x))
      | none => .ok (.ofOption Code.value (code.map reread)) := by
  cases code with
  | none => rfl
  | some code => exact code.reread_value

end Code

theorem Range.reread_ofOption {range : Option Range}
    (h : ∀ held, range = some held → held.IsShort) :
    Json.reread .finite (.ofOption Range.toValue range) = .ok (.ofOption Range.toValue range) := by
  cases range with
  | none => rfl
  | some range =>
    have hwritable := Range.isWritable_toValue (h range rfl) 0
    rw [Value.ofOption, (Json.reread_of_isWritable _ _ hwritable).2, range.joined_toValue]

namespace Diagnostic

/-- The code of a diagnostic, if it is a number that is not finite. -/
def nonFinite? (diagnostic : Diagnostic) : Option Binary64 := diagnostic.code.bind Code.nonFinite?

/-- A diagnostic that was printed and read again. -/
def reread (diagnostic : Diagnostic) : Diagnostic :=
  { diagnostic.joined with code := diagnostic.code.map Code.reread }

theorem nonFinite?_eq_none_iff {diagnostic : Diagnostic} :
    diagnostic.nonFinite? = none ↔ ∀ x, diagnostic.code = some (.float x) → x.isFinite = true := by
  rw [nonFinite?, Option.bind_eq_none_iff]
  constructor
  · intro h x hx
    exact Code.nonFinite?_eq_none_iff.mp (h _ hx) x rfl
  · rintro h code hcode
    exact Code.nonFinite?_eq_none_iff.mpr fun x hx => h x (hx ▸ hcode)

variable {directory : Text} {diagnostic : Diagnostic}

/-- The reader can follow the value of a diagnostic that was read. -/
theorem isReadable_toValue (h : diagnostic.IsRead directory) (depth : Nat) :
    diagnostic.toValue.IsReadable (depth + 3) := by
  refine ⟨depth + 2, rfl, trivial, trivial, trivial, ?_, ?_, trivial⟩
  · cases hheld : diagnostic.code with
    | none => trivial
    | some code =>
      cases code with
      | str | float => trivial
      | int z => exact h.code z hheld
  · cases hheld : diagnostic.range with
    | none => trivial
    | some range =>
      exact (@Json.reread_of_isWritable .finite _ _
        (Range.isWritable_toValue (h.range range hheld) depth)).1

/-- The value of a diagnostic is read as that of the diagnostic read again, unless its code is
refused. -/
theorem reread_toValue (h : diagnostic.IsRead directory) :
    Json.reread .finite diagnostic.toValue = match diagnostic.nonFinite? with
      | some x => .error (.nonFinite (Json.writeFloat x))
      | none => .ok diagnostic.reread.toValue := by
  have hcode := Code.reread_ofOption diagnostic.code
  have hrange := Range.reread_ofOption h.range
  rw [toValue, Json.reread]
  simp only [Json.rereadMembers, Json.reread, hcode, hrange, Severity.joinHalves_name]
  rw [nonFinite?]
  cases diagnostic.code.bind Code.nonFinite? with
  | some x => rfl
  | none => rfl

end Diagnostic

namespace CommandLine

namespace ParseCommand

variable {directory : Text} {found : List Diagnostic}

theorem areReadable_toValue (h : ∀ diagnostic ∈ found, diagnostic.IsRead directory) (depth : Nat) :
    Value.AreReadable (found.map Diagnostic.toValue) (depth + 3) := by
  induction found with
  | nil => trivial
  | cons diagnostic rest ih =>
    obtain ⟨hfirst, hrest⟩ := List.forall_mem_cons.mp h
    exact ⟨Diagnostic.isReadable_toValue hfirst depth, ih hrest⟩

/-- The first code that is not finite stops the reader. -/
theorem rereadItems_toValue (h : ∀ diagnostic ∈ found, diagnostic.IsRead directory) :
    Json.rereadItems .finite (found.map Diagnostic.toValue)
      = match found.findSome? Diagnostic.nonFinite? with
        | some x => .error (.nonFinite (Json.writeFloat x))
        | none => .ok ((found.map Diagnostic.reread).map Diagnostic.toValue) := by
  induction found with
  | nil => rfl
  | cons diagnostic rest ih =>
    obtain ⟨hfirst, hrest⟩ := List.forall_mem_cons.mp h
    rw [List.map_cons, Json.rereadItems, Diagnostic.reread_toValue hfirst, ih hrest,
      List.findSome?_cons]
    cases diagnostic.nonFinite? with
    | some x => rfl
    | none => cases rest.findSome? Diagnostic.nonFinite? <;> rfl

/-- A command that has read its diagnostics prints them, and does not fail. -/
theorem run_eq_printed {files : FileSystem} {input output printed : Text} {options : ParseOptions}
    (hsource : readSource files input options.source = .ok output)
    (hfound : CapturedOutput.diagnostics
      (files.home.append (options.directory.getD ⟨[], []⟩)).toText options.format output
        = .ok found)
    (hprinted : (document found).map (· ++ text "\n") = .ok printed) :
    run files input options = { output := printed } := by
  rw [run, hsource]
  simp only [hfound]
  exact Outcome.write_document hprinted

/-- **What is read of what is printed**: a document and the end of its last line. -/
theorem read_printed_eq {format : InputFormat} {output : Text}
    (hfound : CapturedOutput.diagnostics directory format output = .ok found) :
    ∃ printed, (document found).map (· ++ text "\n") = .ok printed ∧
      Json.read printed = match found.findSome? Diagnostic.nonFinite? with
        | some x => .error (.nonFinite (Json.writeFloat x))
        | none => .ok (.list ((found.map Diagnostic.reread).map Diagnostic.toValue)) := by
  have hread := CapturedOutput.isRead_of_diagnostics hfound
  have hreadable : (Value.list (found.map Diagnostic.toValue)).IsReadable Json.depthLimit :=
    -- a list of objects, in them a range, in that a position
    ⟨_, rfl, areReadable_toValue hread (Json.depthLimit - 4)⟩
  have hends : Json.EndsToken (text "\n") := Json.endsToken_lineFeed []
  refine ⟨_, map_eq_ok.mpr ⟨_, Json.document_eq hreadable, rfl⟩, ?_⟩
  rw [Json.read_writeDocument_append hreadable hends rfl, Json.reread, rereadItems_toValue hread]
  cases found.findSome? Diagnostic.nonFinite? <;> rfl

/-- **What is printed is JSON exactly if every code that is a floating-point number is finite.**
Where some are not, the reader refuses it by the literal of the first. -/
theorem read_printed_iff {format : InputFormat} {output : Text}
    (hfound : CapturedOutput.diagnostics directory format output = .ok found) :
    ∃ printed, (document found).map (· ++ text "\n") = .ok printed ∧
      (∀ files input options, readSource files input options.source = .ok output →
        options.format = format →
        (files.home.append (options.directory.getD ⟨[], []⟩)).toText = directory →
        run files input options = { output := printed }) ∧
      ((∃ value, Json.read printed = .ok value) ↔
        ∀ diagnostic ∈ found, ∀ x, diagnostic.code = some (.float x) → x.isFinite = true) ∧
      ∀ x, found.findSome? Diagnostic.nonFinite? = some x →
        Json.read printed = .error (.nonFinite (Json.writeFloat x)) := by
  obtain ⟨printed, hprinted, hread⟩ := read_printed_eq hfound
  have hfinite : found.findSome? Diagnostic.nonFinite? = none ↔
      ∀ diagnostic ∈ found, ∀ x, diagnostic.code = some (.float x) → x.isFinite = true := by
    rw [List.findSome?_eq_none_iff]
    exact forall₂_congr fun diagnostic _ => Diagnostic.nonFinite?_eq_none_iff
  refine ⟨printed, hprinted, ?_, ?_, fun x hx => by rw [hread, hx]⟩
  · rintro files input options hsource rfl rfl
    exact run_eq_printed hsource hfound hprinted
  · rw [← hfinite, hread]
    cases found.findSome? Diagnostic.nonFinite? <;> simp

/-- A report with a code that is beyond the format, behind one that is not. -/
def overflowingReport : Text :=
  text "[\x7b\"file\": \"a.x\", \"code\": 15e-1\x7d, \x7b\"file\": \"a.x\", \"code\": -1e999\x7d]"

/-- What is printed of a report that overflows is no JSON. -/
theorem read_printed_overflowing :
    ∃ found printed,
      CapturedOutput.diagnostics (text "/p") .auto overflowingReport = .ok found ∧
      run ⟨.directory [], .ofText (text "/p")⟩ overflowingReport {} = { output := printed } ∧
      Json.read printed = .error (.nonFinite (text "-Infinity")) := by
  let found : List Diagnostic := [
    ⟨text "/p/a.x", [], .info, some (.float (.finite false 6755399441055744 (-52))), none⟩,
    ⟨text "/p/a.x", [], .info, some (.float (.infinite true)), none⟩]
  have hfound : CapturedOutput.diagnostics (text "/p") .auto overflowingReport = .ok found := by
    decide +kernel
  obtain ⟨printed, -, hrun, -, hrefused⟩ := read_printed_iff hfound
  refine ⟨found, printed, hfound, hrun _ _ _ ?_ rfl ?_, hrefused (.infinite true) rfl⟩
  · rfl
  · decide +kernel

end ParseCommand

end CommandLine

end DiagnosticRelay
