import DiagnosticRelay.Number.Binary64
import DiagnosticRelay.Text.Basic

/-!
# Loosely typed values

Checkers report records whose fields may hold anything that JSON can say, and
configuration files add dates.  A value keeps the distinctions that matter later: an
integer is not a floating-point number, a truth value is neither, and an object keeps
its members in the order in which their keys first appeared.
-/

namespace DiagnosticRelay

/-- A value of a JSON document or a configuration file. -/
inductive Value where
  | null
  | bool (b : Bool)
  | int (z : Int)
  | float (x : Binary64)
  | str (s : Text)
  | list (items : List Value)
  | object (members : List (Text × Value))
  | date (shown : Text)
  deriving Inhabited

/-- The members of an object, in order; no two of them have the same key. -/
abbrev Members := List (Text × Value)

namespace Members

/-- The value at a key. -/
def get? (members : Members) (key : Text) : Option Value :=
  (members.find? fun member => member.1 == key).map (·.2)

@[simp] theorem get?_nil (key : Text) : get? [] key = none := rfl

/-- The value at a key, or null. -/
def get (members : Members) (key : Text) : Value := (get? members key).getD .null

/-- Whether there is a value at a key. -/
def has (members : Members) (key : Text) : Bool := members.any fun member => member.1 == key

/-- Writes a value at a key: in place if the key is there, else at the end. -/
def insert : Members → Text → Value → Members
  | [], key, value => [(key, value)]
  | (k, v) :: rest, key, value =>
    if k = key then (k, value) :: rest else (k, v) :: insert rest key value

@[simp] theorem insert_nil (key : Text) (value : Value) :
    insert [] key value = [(key, value)] := rfl

/-- Writes every member of the second object into the first. -/
def update (members later : Members) : Members :=
  later.foldl (fun members member => members.insert member.1 member.2) members

/-- The object of a list of members in which a key may be repeated: the last value wins, at
the place of the first. -/
def ofList (members : List (Text × Value)) : Members := update [] members

end Members

namespace Value

/-- Whether a value is an object. -/
def isObject : Value → Bool
  | .object _ => true
  | _ => false

/-- The members of a value, none if it is not an object. -/
def members : Value → Members
  | .object members => members
  | _ => []

@[simp] theorem members_object (members : Members) : (Value.object members).members = members := rfl

/-- The objects among the items of a list, in order; a value that is not a list has none. -/
def objects : Value → List Members
  | .list items => items.filterMap fun item => match item with
    | .object members => some members
    | _ => none
  | _ => []

theorem objects_map_object {α : Type} (f : α → Members) (items : List α) :
    (Value.list (items.map fun item => .object (f item))).objects = items.map f := by
  induction items with
  | nil => rfl
  | cons item rest ih => exact congrArg (f item :: ·) ih

/-- Whether a value is null. -/
def isNull : Value → Bool
  | .null => true
  | _ => false

end Value

end DiagnosticRelay
