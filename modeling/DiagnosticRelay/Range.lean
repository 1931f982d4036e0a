import DiagnosticRelay.Value.Coercion

/-!
# Positions and ranges as a checker reports them

A checker counts lines and columns from one.  A range has a start and may lack an
end.  Both are read tolerantly from a record: `range.start` wins over the record's
own `line` and `column`, each coordinate that cannot be used takes its default, and a
record with neither has no range.

The default of a start coordinate is one, the default of an end coordinate is the
start's.
-/

namespace DiagnosticRelay

/-- A line and a column, counted from one. -/
structure Position where
  line : Int
  column : Int
  deriving DecidableEq, Inhabited

/-- A start and, unless the range is open, an end. -/
structure Range where
  start : Position
  stop : Option Position := none
  deriving DecidableEq, Inhabited

/-- The coordinate that stands in for one that is missing. -/
def defaultCoordinate : Int := 1

/-- The position with the given coordinates, each with its default. -/
def Position.ofValues (line column : Value) (defaultLine defaultColumn : Int) :
    Except Fault Position := do
  let line ← line.toIntOr defaultLine
  let column ← column.toIntOr defaultColumn
  return ⟨line, column⟩

namespace Range

/-- The open range at the given coordinates. -/
def ofPoint (line column : Value) : Except Fault Range := do
  let start ← Position.ofValues line column defaultCoordinate defaultCoordinate
  return ⟨start, none⟩

/-- The range of an object with a `start` and perhaps an `end`. -/
def ofBounds (bounds : Members) : Except Fault (Option Range) :=
  match Members.get bounds (text "start") with
  | .object start => do
    let start ← Position.ofValues (Members.get start (text "line"))
      (Members.get start (text "column"))
      defaultCoordinate defaultCoordinate
    match Members.get bounds (text "end") with
    | .object stop =>
      let stop ← Position.ofValues (Members.get stop (text "line"))
        (Members.get stop (text "column"))
        start.line start.column
      return some ⟨start, some stop⟩
    | _ => return some ⟨start, none⟩
  | _ => .ok none

/-- The range that a record describes. -/
def ofRecord (record : Members) : Except Fault (Option Range) :=
  let nested := (Members.get record (text "range")).members
  if (Members.get nested (text "start")).isObject then ofBounds nested
  else
    let line := Members.get record (text "line")
    let column := Members.get record (text "column")
    if line.isNull && column.isNull then .ok none
    else (ofPoint line column).map some

end Range

end DiagnosticRelay
