import DiagnosticRelay.Fault
import DiagnosticRelay.Value.Basic

/-!
# Writing values

A value can be laid out as text in more than one way, but all of them write its integers
in decimal, and that fails for an integer with more digits than the library converts.  It is the
only thing that can fail, so a layout is a plain function of the value, and `written` puts
the refusal in front of it: a value with an integer that is too long is not written at all.
-/

namespace DiagnosticRelay

namespace Value

mutual

/-- Whether all integers in a value, at any depth, are short enough to be written. -/
def isShort : Value → Bool
  | .int z => Decimal.isShort z
  | .list items => areShort items
  | .object members => areShortMembers members
  | _ => true

/-- Whether all integers in some items are short enough. -/
def areShort : List Value → Bool
  | [] => true
  | item :: items => isShort item && areShort items

/-- Whether all integers in the values of some members are short enough. -/
def areShortMembers : List (Text × Value) → Bool
  | [] => true
  | (_, value) :: members => isShort value && areShortMembers members

end

/-- A value in a layout, unless an integer in it is too long. -/
def written (layout : Value → Text) (value : Value) : Except Fault Text :=
  if value.isShort then .ok (layout value) else .error .integerTooLong

theorem written_of_isShort {value : Value} (h : value.isShort = true)
    (layout : Value → Text) : value.written layout = .ok (layout value) := if_pos h

end Value

end DiagnosticRelay
