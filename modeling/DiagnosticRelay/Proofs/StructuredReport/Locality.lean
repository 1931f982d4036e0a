import DiagnosticRelay.Proofs.Json.RoundTrip
import DiagnosticRelay.Proofs.LineGrammar.Lines
import DiagnosticRelay.Proofs.StructuredReport.Outcome

/-!
# Reading structured output is local to records

A report is a list of elements, and each element that counts gives one diagnostic by itself.  What
stands beside it is not looked at: neither the other elements nor, if the list is a member of an
object, the other members.  `ofValue_local` says this in several ways.

* A report that is read gives one diagnostic for each element that counts, in order, and it is the
  diagnostic of that element alone.
* A report fails exactly if an element that counts fails by itself.
* The object that holds a list under `diagnostics` reads like the bare list.
* A list is read in two parts, cut at any place; so what stands before and behind an element gives
  what it gives with any other element in that place, or with none.

The last part is about the text of a report.  Text that is refused is not JSON, and no report; but
an integer with too many digits is not refused in this sense, and text that has one makes the
reading fail (`Json.read_eq_tooManyDigits`).
-/

namespace DiagnosticRelay

namespace StructuredReport

open TextReport (andThen ok_nil_andThen andThen_assoc)

variable {directory : Text} {element : Value} {items : List Value} {found : List Diagnostic}

/-! ## Elements -/

/-- The elements of a report: the items of a list, or of the list that an object holds under
`diagnostics`. -/
def elements : Value → List Value
  | .list items => items
  | .object members =>
    match Members.get members (text "diagnostics") with
    | .list items => items
    | _ => []
  | _ => []

theorem elements_object {members : Members}
    (h : Members.get members (text "diagnostics") = .list items) :
    elements (.object members) = items := by
  simp only [elements, h]

/-- A report is read as the list of its elements. -/
theorem ofValue_elements (directory : Text) (document : Value) :
    ofValue directory (.list (elements document)) = ofValue directory document := by
  cases document with
  | list items => rfl
  | object members =>
    rw [ofValue, ofValue, records, records, elements]
    cases Members.get members (text "diagnostics") <;> rfl
  | null | bool | int | float | str | date => rfl

/-- Whether an element counts: it is an object with a nonempty string under `file`. -/
def isUsable : Value → Bool
  | .object record =>
    match Members.get record (text "file") with
    | .str (_ :: _) => true
    | _ => false
  | _ => false

theorem isUsable_iff : isUsable element = true ↔
    ∃ record c rest, element = .object record ∧
      Members.get record (text "file") = .str (c :: rest) := by
  cases element with
  | object record =>
    rw [isUsable]
    split
    · next c rest h => exact iff_of_true rfl ⟨record, c, rest, rfl, h⟩
    · next hfile =>
      refine iff_of_false (by simp) ?_
      rintro ⟨_, c, rest, hrecord, h⟩
      cases hrecord
      exact hfile c rest h
  | null | bool | int | float | str | list | date => simp [isUsable]

/-- What an element gives by itself. -/
def ofElement (directory : Text) : Value → Except Fault (Option Diagnostic)
  | .object record => diagnosticOf directory record
  | _ => .ok none

theorem ofElement_of_not_usable (h : isUsable element = false) :
    ofElement directory element = .ok none := by
  cases element with
  | object record =>
    rw [ofElement, diagnosticOf]
    cases hfile : Members.get record (text "file") with
    | str reference =>
      cases reference with
      | nil => rfl
      | cons c rest =>
        rw [isUsable_iff.mpr ⟨record, c, rest, rfl, hfile⟩] at h
        cases h
    | null | bool | int | float | list | object | date => rfl
  | null | bool | int | float | str | list | date => rfl

/-- An element that counts gives a diagnostic, unless it fails. -/
theorem ofElement_ne_ok_none (h : isUsable element = true) :
    ofElement directory element ≠ .ok none := by
  obtain ⟨record, c, rest, rfl, hfile⟩ := isUsable_iff.mp h
  rw [ofElement, diagnosticOf, hfile]
  intro hnone
  obtain ⟨message, -, hnone⟩ := bind_eq_ok.mp hnone
  obtain ⟨severity, -, hnone⟩ := bind_eq_ok.mp hnone
  obtain ⟨code, -, hnone⟩ := bind_eq_ok.mp hnone
  obtain ⟨range, -, hnone⟩ := bind_eq_ok.mp hnone
  cases hnone

/-! ## Lists of elements -/

theorem ofValue_nil (directory : Text) : ofValue directory (.list []) = .ok [] := rfl

/-- Reading a list is reading its first element and then the others. -/
theorem ofValue_cons (directory : Text) (element : Value) (items : List Value) :
    ofValue directory (.list (element :: items))
      = andThen ((ofElement directory element).map Option.toList)
          (ofValue directory (.list items)) := by
  cases element with
  | object record =>
    show ofRecords directory (record :: records (.list items)) = _
    rw [ofRecords, ofElement]
    cases diagnosticOf directory record <;> rfl
  | null | bool | int | float | str | list | date => exact (ok_nil_andThen _).symm

/-- A list is read in two parts, cut at any place. -/
theorem ofValue_append (directory : Text) (items others : List Value) :
    ofValue directory (.list (items ++ others))
      = andThen (ofValue directory (.list items)) (ofValue directory (.list others)) := by
  induction items with
  | nil => rw [List.nil_append, ofValue_nil, ok_nil_andThen]
  | cons element items ih =>
    rw [List.cons_append, ofValue_cons, ofValue_cons, ih, andThen_assoc]

theorem ofValue_cons_of_not_usable (h : isUsable element = false) :
    ofValue directory (.list (element :: items)) = ofValue directory (.list items) := by
  rw [ofValue_cons, ofElement_of_not_usable h]
  exact ok_nil_andThen _

/-- The first element, if it counts, gives the first diagnostic. -/
theorem ofValue_cons_eq_ok_iff (h : isUsable element = true) :
    ofValue directory (.list (element :: items)) = .ok found ↔
      ∃ diagnostic others, found = diagnostic :: others ∧
        ofElement directory element = .ok (some diagnostic) ∧
        ofValue directory (.list items) = .ok others := by
  rw [ofValue_cons]
  constructor
  · intro hfound
    obtain ⟨first, hfirst, hrest⟩ := bind_eq_ok.mp hfound
    obtain ⟨others, hothers, hall⟩ := bind_eq_ok.mp hrest
    obtain ⟨_ | diagnostic, helement, rfl⟩ := map_eq_ok.mp hfirst
    · exact absurd helement (ofElement_ne_ok_none h)
    · exact ⟨diagnostic, others, (Except.ok.inj hall).symm, helement, hothers⟩
  · rintro ⟨diagnostic, others, rfl, helement, hothers⟩
    rw [helement, hothers]
    rfl

/-- Reading a list is reading each element that counts by itself. -/
theorem ofValue_list_eq_ok_iff : ofValue directory (.list items) = .ok found ↔
    List.Forall₂ (fun element diagnostic => ofElement directory element = .ok (some diagnostic))
      (items.filter isUsable) found := by
  induction items generalizing found with
  | nil =>
    rw [ofValue_nil, List.filter_nil, List.forall₂_nil_left_iff, Except.ok.injEq, eq_comm]
  | cons element items ih =>
    cases h : isUsable element with
    | false =>
      rw [ofValue_cons_of_not_usable h, List.filter_cons_of_neg (by simp [h]), ih]
    | true =>
      rw [ofValue_cons_eq_ok_iff h, List.filter_cons_of_pos h, List.forall₂_cons_left_iff]
      simp only [ih]
      constructor
      · rintro ⟨diagnostic, others, rfl, helement, hothers⟩
        exact ⟨diagnostic, others, helement, hothers, rfl⟩
      · rintro ⟨diagnostic, others, helement, hothers, rfl⟩
        exact ⟨diagnostic, others, rfl, helement, hothers⟩

theorem andThen_eq_error_iff {first second : Except Fault (List Diagnostic)} :
    (∃ fault, andThen first second = .error fault) ↔
      (∃ fault, first = .error fault) ∨ ∃ fault, second = .error fault := by
  cases first <;> cases second <;> simp [andThen, bind, Except.bind, pure, Except.pure]

/-- Reading a list fails with an element of it. -/
theorem ofValue_list_eq_error_iff : (∃ fault, ofValue directory (.list items) = .error fault) ↔
    ∃ element ∈ items, isUsable element = true ∧
      ∃ fault, ofElement directory element = .error fault := by
  induction items with
  | nil => simp [ofValue_nil]
  | cons element items ih =>
    have helement : (∃ fault, (ofElement directory element).map Option.toList = .error fault) ↔
        isUsable element = true ∧ ∃ fault, ofElement directory element = .error fault := by
      cases h : isUsable element with
      | false => simp [ofElement_of_not_usable h, Except.map]
      | true => cases ofElement directory element <;> simp [Except.map]
    rw [ofValue_cons, andThen_eq_error_iff, helement, ih]
    simp only [List.mem_cons, exists_eq_or_imp]

/-- **Reading structured output is local to records.** -/
theorem ofValue_local (directory : Text) :
    (∀ document found, ofValue directory document = .ok found ↔
      List.Forall₂ (fun element diagnostic => ofElement directory element = .ok (some diagnostic))
        ((elements document).filter isUsable) found) ∧
    (∀ document, (∃ fault, ofValue directory document = .error fault) ↔
      ∃ element ∈ elements document, isUsable element = true ∧
        ∃ fault, ofElement directory element = .error fault) ∧
    (∀ members items, Members.get members (text "diagnostics") = .list items →
      ofValue directory (.object members) = ofValue directory (.list items)) ∧
    (∀ items others, ofValue directory (.list (items ++ others))
      = andThen (ofValue directory (.list items)) (ofValue directory (.list others))) ∧
    (∀ before element after, ofValue directory (.list (before ++ element :: after))
      = andThen (ofValue directory (.list before))
          (andThen ((ofElement directory element).map Option.toList)
            (ofValue directory (.list after)))) ∧
    ∀ output,
      (diagnostics? directory output = .ok none ↔
        ∃ failure, Json.read output = .error failure ∧ ∀ n, failure ≠ .tooManyDigits n) ∧
      (∀ found, diagnostics? directory output = .ok (some found) ↔
        ∃ document, Json.read output = .ok document ∧ ofValue directory document = .ok found) ∧
      ((∃ fault, diagnostics? directory output = .error fault) ↔
        (∃ n, Json.read output = .error (.tooManyDigits n)) ∨
          ∃ document, Json.read output = .ok document ∧
            ∃ fault, ofValue directory document = .error fault) := by
  refine ⟨?_, ?_, ?_, ofValue_append directory, ?_, fun output =>
    ⟨diagnostics?_eq_none_iff, fun found => diagnostics?_eq_some_iff, diagnostics?_eq_error_iff⟩⟩
  · intro document found
    rw [← ofValue_elements, ofValue_list_eq_ok_iff]
  · intro document
    rw [← ofValue_elements, ofValue_list_eq_error_iff]
  · intro members items h
    rw [← ofValue_elements, elements_object h]
  · intro before element after
    rw [ofValue_append, ofValue_cons]

/-- A wrapped list of which one element counts, and text of one digit more than are converted. -/
theorem ofValue_local_wrapped :
    let record : Members := [(text "file", .str (text "a.c")), (text "message", .str (text "x"))]
    let items : List Value := [.int 3, .object record, .object [(text "file", .str [])]]
    let members : Members := [(text "version", .int 1), (text "diagnostics", .list items)]
    let digits : Text := List.replicate 4301 (.char '1')
    Members.get members (text "diagnostics") = .list items ∧
      ofValue (text "/p") (.object members)
        = .ok [{ file := text "/p/a.c", message := text "x", severity := .info }] ∧
      ∃ fault, diagnostics? (text "/p") digits = .error fault := by
  intro record items members digits
  obtain ⟨-, -, hwrapped, -, -, houtput⟩ := ofValue_local (text "/p")
  have hmember : Members.get members (text "diagnostics") = .list items := rfl
  have hdigits (n : Nat) : Json.IsWhole (List.replicate (n + 1) 1) := by
    refine ⟨⟨List.cons_ne_nil _ _, fun d hd => ?_⟩, by simp [List.replicate_succ]⟩
    rw [List.eq_of_mem_replicate hd]
    decide
  have hread : Json.read digits = .error (.tooManyDigits 4301) := by
    have h := Json.read_eq_tooManyDigits (hdigits 4300)
      (by rw [List.length_replicate]; decide) false
    rwa [List.length_replicate, List.map_replicate] at h
  refine ⟨hmember, ?_, (houtput digits).2.2.mpr (Or.inl ⟨4301, hread⟩)⟩
  rw [hwrapped members items hmember]
  rfl

end StructuredReport

end DiagnosticRelay
