import DiagnosticRelay.Console
import DiagnosticRelay.Grouping
import DiagnosticRelay.Json.Writer
import DiagnosticRelay.Path.Lexical

/-!
# Showing diagnostics

Two presentations exist.  For people, each diagnostic is a line `file:line:column
severity [code] message`, counted from one, with the file relative to the working directory
where it lies below it.  For programs, all diagnostics are one JSON document in the shape of
the language server protocol, keyed by file.  Either fails on a coordinate that has too many
digits to be written.
-/

namespace DiagnosticRelay

/-- A stretch of a line in one style. -/
structure Styled where
  start : Nat
  stop : Nat
  style : Text
  deriving DecidableEq

/-- A line for people: its text and the styles on it. -/
structure StyledLine where
  plain : Text
  spans : List Styled
  deriving DecidableEq

namespace StyledLine

/-- Appends a text without a style. -/
def append (line : StyledLine) (t : Text) : StyledLine :=
  ⟨line.plain ++ Console.plain t, line.spans⟩

/-- Appends a text in a style; nothing is recorded for an empty text or without a style. -/
def appendStyled (line : StyledLine) (t : Text) (style : Option Text) : StyledLine :=
  let shown := Console.plain t
  let start := line.plain.length
  ⟨line.plain ++ shown, line.spans ++
    if shown.isEmpty then []
    else (style.map fun style => ⟨start, start + shown.length, style⟩).toList⟩

end StyledLine

namespace Presentation

/-- The place of a diagnostic, counted from one; relative to a directory if one is given. -/
def location (root : Option Text) (file : Text) (diagnostic : HostDiagnostic) :
    Except Fault Text := do
  let shown := match root with
    | some root => Path.displayFrom root file
    | none => file
  let start := diagnostic.range.start
  let row ← (Value.int (start.line + 1)).display
  let column ← (Value.int (start.character + 1)).display
  return Text.join (text ":") [shown, row, column]

/-- The line of a diagnostic for people. -/
def line (root : Option Text) (colour : Bool) (file : Text) (diagnostic : HostDiagnostic) :
    Except Fault StyledLine := do
  let styled (style : Text) : Option Text := if colour then some style else none
  let place : StyledLine := ⟨Console.plain (← location root file diagnostic), []⟩
  let level := (place.append (text " ")).appendStyled diagnostic.severity.name
    (styled diagnostic.severity.colour)
  let coded := match diagnostic.code with
    | none | some [] => level
    | some code => level.appendStyled (text " [" ++ code ++ text "]") (styled (text "bold"))
  return coded.append (.char ' ' :: diagnostic.message)

/-- All diagnostics with their files, in order. -/
def listing (entries : Grouped) : List (Text × HostDiagnostic) :=
  entries.flatMap fun entry => entry.2.map fun diagnostic => (entry.1, diagnostic)

/-- The lines of all diagnostics as they are printed, one by one. -/
def pretty (root : Option Text) (entries : Grouped) : List (Except Fault Text) :=
  (listing entries).map fun (file, diagnostic) =>
    (line root false file diagnostic).map fun line => Console.print line.plain

/-- A place in the language server protocol. -/
def positionValue (position : HostPosition) : Value :=
  .object [(text "line", .int position.line), (text "character", .int position.character)]

/-- A diagnostic in the language server protocol. -/
def protocolValue (diagnostic : HostDiagnostic) : Value :=
  .object ([
    (text "range", .object [
      (text "start", positionValue diagnostic.range.start),
      (text "end", positionValue diagnostic.range.stop)]),
    (text "severity", .int diagnostic.severity.protocolLevel),
    (text "message", .str diagnostic.message)]
    ++ (diagnostic.code.map fun code => (text "code", Value.str code)).toList
    ++ (diagnostic.source.map fun source => (text "source", Value.str source)).toList)

/-- The document of all diagnostics by file; of two lists for one file the later counts. -/
def documentValue (entries : Grouped) : Value :=
  .object (Members.ofList (entries.map fun entry => (entry.1, .list (entry.2.map protocolValue))))

/-- The document of all diagnostics as it is written. -/
def document (entries : Grouped) : Except Fault Text := Json.document (documentValue entries)

end Presentation

end DiagnosticRelay
