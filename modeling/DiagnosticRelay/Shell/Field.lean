import DiagnosticRelay.Shell.Pattern
import DiagnosticRelay.Shell.Run

/-!
# Fields

What an expansion gives is split into fields where a separator stands, unless it was
quoted.  Separators that are white space close a field and are otherwise nothing; any
other separator also parts two fields of which one may be empty, and takes the white
space beside it in.

A field with an open pattern in it stands for the paths that fit, in their order, if there
are any.
-/

namespace DiagnosticRelay

namespace Shell

/-- The fields of a word so far, the latest first, and the field that is being built, with its
latest mark first.  The flag tells that the last field was closed by white space alone. -/
structure Fields where
  closed : List (List Mark) := []
  current : Option (List Mark) := none
  soft : Bool := false

namespace Fields

/-- Adds to the field that is being built. -/
def extend (fields : Fields) (found : List Mark) : Fields :=
  { fields with current := some (found.reverseAux (fields.current.getD [])), soft := false }

/-- Closes the field that is being built. -/
def close (fields : Fields) : Fields :=
  match fields.current with
  | some field => ⟨field.reverse :: fields.closed, none, false⟩
  | none => fields

/-- Adds a text that is split at separators. -/
def split (separators : Text) : Fields → Text → Fields
  | fields, [] => fields
  | fields, c :: rest =>
    if !separators.contains c then split separators (fields.extend [(c, false)]) rest
    else if c == .char ' ' || c == .char '\t' || c == .char '\n' then
      split separators
        (if fields.current.isSome then { fields.close with soft := true } else fields)
        rest
    else if fields.current.isSome then split separators fields.close rest
    else if fields.soft then split separators { fields with soft := false } rest
    else split separators { fields with closed := [] :: fields.closed } rest

/-- Adds each of some texts as a field; the first and the last join what stands beside them. -/
def each (add : Fields → Text → Fields) : Fields → List Text → Fields
  | fields, [] => fields
  | fields, [t] => add fields t
  | fields, t :: next :: more => each add (add fields t).close (next :: more)

/-- All fields in order. -/
def toList (fields : Fields) : List (List Mark) := fields.close.closed.reverse

end Fields

/-- The text of some marks. -/
def textOf (field : List Mark) : Text := field.map (·.1)

/-- The pieces of a field between slashes. -/
def splitSteps : List Mark → List (List Mark)
  | [] => [[]]
  | mark :: rest =>
    if mark.1 = .char '/' then [] :: splitSteps rest
    else match splitSteps rest with
      | [] => [[mark]]
      | step :: steps => (mark :: step) :: steps

/-- The names in a directory that fit a pattern; hidden ones have to be asked for. -/
def fittingNames (pattern : Pattern) : Node → List (Text × Node)
  | .directory entries =>
    (entries.map fun entry => (ofText entry.1, entry.2)).filter fun entry =>
      pattern.fits entry.1
        && (entry.1.head? != some (.char '.') || pattern.head? == some (.exactly (.char '.')))
  | _ => []

/-- The paths that lead on from a node by some steps, each behind what was shown before. -/
def fittingPaths (shown : Text) (node : Node) : List (List Mark) → List Text
  | [] => [shown]
  | step :: steps =>
    let pattern := Pattern.read step
    let behind (name : Text) : Text := shown ++ name ++ (if steps.isEmpty then [] else text "/")
    if pattern.isOpen then
      (fittingNames pattern node).flatMap fun entry => fittingPaths (behind entry.1) entry.2 steps
    else
      let name := textOf step
      if name.isEmpty || name = Path.here then
        if node.isDirectory then fittingPaths (behind name) node steps else []
      else match node with
        | .directory entries =>
          match entries.find? fun entry => ofText entry.1 == name with
          | some entry => fittingPaths (behind name) entry.2 steps
          | none => []
        | _ => []

/-- The texts that a field stands for. -/
def Run.paths (run : Run) (field : List Mark) : List Text :=
  if run.options.noPatterns || !(Pattern.read field).isOpen then [textOf field]
  else
    let (start, shown, steps) := match splitSteps field with
      | [] :: steps => (some run.files.root, text "/", steps)
      | steps =>
        match FileSystem.walk run.files.root [] (run.path Path.here).names with
        | .ok (node, _) => (some node, [], steps)
        | .error _ => (none, [], steps)
    match (start.map fun node => fittingPaths shown node steps).getD [] with
    | [] => [textOf field]
    | found => found.mergeSort Text.le

end Shell

end DiagnosticRelay
