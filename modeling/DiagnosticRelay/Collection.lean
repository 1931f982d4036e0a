import DiagnosticRelay.Grouping

/-!
# The diagnostics that a host shows

A collection holds the current diagnostics of each file and writes every change to a
journal.  Two changes exist: everything is cleared, or the diagnostics of one file are
replaced.  A file whose diagnostics are replaced by none disappears; it is never held with an
empty list.  A file that is set again keeps its place.

Publishing a check clears the collection and sets its files one after another.  If the
check found nothing, the file that triggered it is set to none, so that the journal says
so.
-/

namespace DiagnosticRelay

/-- A change of a collection, as the journal keeps it. -/
inductive Change where
  | clear
  | set (file : Text) (count : Nat)
  deriving DecidableEq

/-- The diagnostics of each file, in order of insertion, and all changes so far. -/
structure Collection where
  entries : Grouped := []
  journal : List Change := []
  deriving DecidableEq, Inhabited

namespace Collection

/-- Puts a list at a file: in place if the file is there, else at the end. -/
def place : Grouped → Text → List HostDiagnostic → Grouped
  | [], file, diagnostics => [(file, diagnostics)]
  | (key, bucket) :: rest, file, diagnostics =>
    if key = file then (key, diagnostics) :: rest
    else (key, bucket) :: place rest file diagnostics

/-- Takes a file out. -/
def remove (entries : Grouped) (file : Text) : Grouped :=
  entries.filter fun entry => entry.1 != file

/-- Drops all diagnostics. -/
def clear (collection : Collection) : Collection :=
  ⟨[], collection.journal ++ [.clear]⟩

@[simp] theorem entries_clear (collection : Collection) : collection.clear.entries = [] := rfl

@[simp] theorem journal_clear (collection : Collection) :
    collection.clear.journal = collection.journal ++ [.clear] := rfl

/-- Replaces the diagnostics of a file. -/
def set (collection : Collection) (file : Text) (diagnostics : List HostDiagnostic) : Collection :=
  ⟨if diagnostics.isEmpty then remove collection.entries file
    else place collection.entries file diagnostics,
    collection.journal ++ [.set file diagnostics.length]⟩

@[simp] theorem journal_set (collection : Collection) (file : Text)
    (diagnostics : List HostDiagnostic) :
    (collection.set file diagnostics).journal
      = collection.journal ++ [.set file diagnostics.length] := rfl

/-- The diagnostics of a file. -/
def get (collection : Collection) (file : Text) : List HostDiagnostic :=
  ((collection.entries.find? fun entry => entry.1 == file).map (·.2)).getD []

/-- Whether a file is held. -/
def contains (collection : Collection) (file : Text) : Bool :=
  collection.entries.any fun entry => entry.1 == file

/-- The number of files. -/
def size (collection : Collection) : Nat := collection.entries.length

/-- The number of diagnostics, of one level or of all. -/
def count (collection : Collection) (severity : Option Severity) : Nat :=
  (collection.entries.flatMap (·.2)).countP fun diagnostic =>
    severity.all fun severity => diagnostic.severity == severity

/-- Replaces everything by the given diagnostics. -/
def publish (collection : Collection) (grouped : Grouped) (trigger : Text) : Collection :=
  if grouped.isEmpty then collection.clear.set trigger []
  else grouped.foldl (fun collection entry => collection.set entry.1 entry.2) collection.clear

end Collection

end DiagnosticRelay
