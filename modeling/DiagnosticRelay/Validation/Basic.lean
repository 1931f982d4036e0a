import DiagnosticRelay.Fault
import DiagnosticRelay.Value.Basic

/-!
# Validation

A loosely typed value either fits what is wanted or does not, and then all its
misfits are wanted at once, each with its place.  So the outcome of a validation is a
value or a list of complaints, and two validations are put together by collecting the
complaints of both, in order.  There is no notion of the first complaint stopping
the others.
-/

namespace DiagnosticRelay

/-- In which way a value does not fit. -/
inductive Misfit where
  | missing
  | stringType
  | stringUnicode
  | intType
  | intParsing
  | intParsingSize
  | intFromFloat
  | finiteNumber
  | floatType
  | floatParsing
  | boolType
  | boolParsing
  | listType
  | modelType
  | enumeration
  | extraForbidden
  | frozenInstance
  | noSuchAttribute
  | emptyBinary
  | negativeTimeout
  | refused (fault : Fault)
  deriving DecidableEq

namespace Misfit

/-- The code of a misfit. -/
def code : Misfit → Text
  | .missing => text "missing"
  | .stringType => text "string_type"
  | .stringUnicode => text "string_unicode"
  | .intType => text "int_type"
  | .intParsing => text "int_parsing"
  | .intParsingSize => text "int_parsing_size"
  | .intFromFloat => text "int_from_float"
  | .finiteNumber => text "finite_number"
  | .floatType => text "float_type"
  | .floatParsing => text "float_parsing"
  | .boolType => text "bool_type"
  | .boolParsing => text "bool_parsing"
  | .listType => text "list_type"
  | .modelType => text "model_type"
  | .enumeration => text "enum"
  | .extraForbidden => text "extra_forbidden"
  | .frozenInstance => text "frozen_instance"
  | .noSuchAttribute => text "no_such_attribute"
  | .emptyBinary => text "value_error"
  | .negativeTimeout => text "value_error"
  | .refused _ => text "value_error"

/-- The wording of a misfit that is stated by this library's own rules. -/
def wording? : Misfit → Option Text
  | .emptyBinary => some (text "Value error, binary must not be empty")
  | .negativeTimeout => some (text "Value error, timeout must be non-negative")
  | .refused fault => some (text "Value error, " ++ fault.message)
  | _ => none

end Misfit

/-- A misfit and the place where it was found, from the outside in. -/
structure Complaint where
  place : List Text
  misfit : Misfit
  deriving DecidableEq

/-- A value that fits, or all complaints about it. -/
inductive Validated (α : Type) where
  | valid (value : α)
  | invalid (complaints : List Complaint)

namespace Validated

variable {α β : Type}

/-- Applies a function to a value that fits. -/
def map (f : α → β) : Validated α → Validated β
  | .valid value => .valid (f value)
  | .invalid complaints => .invalid complaints

/-- Puts a function and its argument together, with the complaints of both. -/
def ap (f : Validated (α → β)) (x : Unit → Validated α) : Validated β :=
  match f, x () with
  | .valid f, .valid a => .valid (f a)
  | .valid _, .invalid complaints => .invalid complaints
  | .invalid complaints, .valid _ => .invalid complaints
  | .invalid complaints, .invalid more => .invalid (complaints ++ more)

instance : Applicative Validated where
  map := map
  pure := .valid
  seq := ap

/-- A single complaint without a place. -/
def misfit (kind : Misfit) : Validated α := .invalid [⟨[], kind⟩]

/-- A validation of something that stands at the given place. -/
def under (place : Text) : Validated α → Validated α
  | .valid value => .valid value
  | .invalid complaints =>
    .invalid (complaints.map fun complaint => ⟨place :: complaint.place, complaint.misfit⟩)

/-- A further requirement on a value that fits. -/
def require (check : α → Option Misfit) : Validated α → Validated α
  | .valid value => match check value with
    | some kind => misfit kind
    | none => .valid value
  | .invalid complaints => .invalid complaints

/-- The value, if it fits. -/
def toOption : Validated α → Option α
  | .valid value => some value
  | .invalid _ => none

/-- The member at a key, which must be there. -/
def required (members : Members) (key : Text) (validate : Value → Validated α) : Validated α :=
  under key (match Members.get? members key with
    | some value => validate value
    | none => misfit .missing)

/-- The member at a key, or a default. -/
def optional (members : Members) (key : Text) (default : α) (validate : Value → Validated α) :
    Validated α :=
  match Members.get? members key with
  | some value => under key (validate value)
  | none => .valid default

/-- Whether the name of a field is private: it begins with an underscore.  No rule speaks of private
names, so that a value given to one is accepted and lost. -/
def isPrivate (field : Text) : Bool := field.head? == some (.char '_')

/-- Gives a field a new value by the rules for the fields. -/
def assigned (current : α) (field : Text) (validate : Validated α) : Validated α :=
  if isPrivate field then .valid current else under field validate

/-- Refuses to give a field of a record that never changes a new value. -/
def unchangeable (current : α) (field : Text) : Validated α :=
  assigned current field (misfit .frozenInstance)

/-- A value that may be null. -/
def nullable (validate : Value → Validated α) : Value → Validated (Option α)
  | .null => .valid none
  | value => (validate value).map some

/-- The items of a list, numbered from the given place on. -/
def itemsFrom (validate : Value → Validated α) : Nat → List Value → Validated (List α)
  | _, [] => .valid []
  | index, item :: items =>
    (fun a as => a :: as) <$> under (Decimal.ofNat index) (validate item)
      <*> itemsFrom validate (index + 1) items

/-- A list of things that fit. -/
def listOf (validate : Value → Validated α) : Value → Validated (List α)
  | .list items => itemsFrom validate 0 items
  | _ => misfit .listType

/-- An object, read by its members. -/
def record (validate : Members → Validated α) : Value → Validated α
  | .object members => validate members
  | _ => misfit .modelType

end Validated

end DiagnosticRelay
