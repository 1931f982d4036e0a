import DiagnosticRelay.Value.Basic

/-!
# Tables under construction

A configuration document builds one tree of tables.  Its statements name places in the tree by
paths, and the language restricts which places may be named again:

* a table that a header has declared may not be declared by another header, nor be
  extended by a dotted key from outside;
* an array or an inline table is complete once it is written, and nothing below it may be
  touched.

Both restrictions are kept as marks on paths.  A mark on a complete value holds for
everything below its path; a mark on a declared table holds for that path alone.  A table
that a dotted key opens counts as declared only from the next header on, so its marks wait
until then.

Where a path meets an array of tables, its last table is meant.
-/

namespace DiagnosticRelay

namespace Toml

/-- A place in the tree of tables. -/
abbrev KeyPath := List Text

/-- What is remembered about places: declared tables and complete values. -/
structure Marks where
  declared : List KeyPath := []
  complete : List KeyPath := []
  waiting : List KeyPath := []

namespace Marks

/-- Whether a header has declared a table. -/
def isDeclared (marks : Marks) (path : KeyPath) : Bool :=
  !path.isEmpty && marks.declared.contains path

/-- Whether a place lies at or below a complete value. -/
def isComplete (marks : Marks) (path : KeyPath) : Bool :=
  !path.isEmpty && marks.complete.any fun mark => mark.isPrefixOf path

/-- Marks a table as declared. -/
def declare (marks : Marks) (path : KeyPath) : Marks :=
  { marks with declared := path :: marks.declared }

/-- Marks a value as complete. -/
def close (marks : Marks) (path : KeyPath) : Marks :=
  { marks with complete := path :: marks.complete }

/-- Marks a table as declared from the next header on. -/
def await (marks : Marks) (path : KeyPath) : Marks :=
  { marks with waiting := path :: marks.waiting }

/-- Lets the waiting marks take effect. -/
def settle (marks : Marks) : Marks :=
  { marks with declared := marks.waiting ++ marks.declared, waiting := [] }

/-- Forgets the marks at and below a place. -/
def forget (marks : Marks) (path : KeyPath) : Marks :=
  { marks with
    declared := marks.declared.filter fun mark => !path.isPrefixOf mark
    complete := marks.complete.filter fun mark => !path.isPrefixOf mark }

end Marks

/-- Changes the table at a place; tables on the way are made.

Arrays of tables are entered only where that is asked for.  There is no answer if something other
than a table is in the way, or if the change has none. -/
def changeAt (enterArrays : Bool) (change : Members → Option Members) :
    KeyPath → Members → Option Members
  | [], table => change table
  | key :: path, table =>
    match Members.get? table key with
    | none =>
      (changeAt enterArrays change path []).map fun inner => table.insert key (.object inner)
    | some (.object inner) =>
      (changeAt enterArrays change path inner).map fun inner => table.insert key (.object inner)
    | some (.list items) =>
      match enterArrays, items.getLast? with
      | true, some (.object inner) =>
        (changeAt enterArrays change path inner).map fun inner =>
          table.insert key (.list (items.dropLast ++ [.object inner]))
      | _, _ => none
    | some _ => none

/-- Makes sure that there is a table at a place. -/
def openTable (path : KeyPath) (table : Members) : Option Members := changeAt true some path table

/-- Adds an empty table to the array at a place; a new array is made if there is nothing. -/
def appendTable (path : KeyPath) (table : Members) : Option Members :=
  match path.getLast? with
  | none => none
  | some last => changeAt true (fun parent =>
      match Members.get? parent last with
      | none => some (parent.insert last (.list [.object []]))
      | some (.list items) => some (parent.insert last (.list (items ++ [.object []])))
      | some _ => none) path.dropLast table

/-- Writes a value at a new key of the table at a place. -/
def addValue (enterArrays : Bool) (path : KeyPath) (key : Text) (value : Value) (table : Members) :
    Option Members :=
  changeAt enterArrays (fun parent =>
    if parent.has key then none else some (parent.insert key value)) path table

/-- Whether a value is complete once it is written. -/
def isContainer : Value → Bool
  | .object _ => true
  | .list _ => true
  | _ => false

end Toml

end DiagnosticRelay
