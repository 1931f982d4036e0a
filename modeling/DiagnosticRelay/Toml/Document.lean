import DiagnosticRelay.Toml.Scalar
import DiagnosticRelay.Toml.Table

/-!
# Configuration documents

A document is a sequence of statements, one to a line: a header names the table that the
following keys belong to, a header in double brackets adds a table to an array, and a key with its
value writes into the current table.  Comments run to the end of their line.

Values nest, and the functions for values, arrays and inline tables call one another
with fuel, as the JSON reader does; the fuel is twice the length of the document, and
each second call takes a code point away.
-/

namespace DiagnosticRelay

namespace Toml

/-- Turns the absence of a result into a refusal. -/
def orMalformed {α : Type} : Option α → Except Refusal α
  | some a => .ok a
  | none => .error .malformed

/-- Whether a code point can stand in a key without quotes. -/
def isBareKey (c : CodePoint) : Bool :=
  c.isAsciiLetter || c.asciiDigit?.isSome || c == .char '-' || c == .char '_'

/-- One part of a key, and what follows it. -/
def readKeyPart? (t : Text) : Option (Text × Text) :=
  match t with
  | [] => none
  | c :: rest =>
    if c = .char '"' ∨ c = .char '\'' then readQuoted c false 0 rest
    else if isBareKey c then some (t.takeWhile isBareKey, t.dropWhile isBareKey)
    else none

/-- The parts of a key with points between them, and what follows it and its blanks. -/
def readKey? : Nat → Text → Option (KeyPath × Text)
  | 0, _ => none
  | fuel + 1, t => do
    let (part, t) ← readKeyPart? t
    match skipBlanks t with
    | .char '.' :: rest =>
      let (parts, t) ← readKey? fuel (skipBlanks rest)
      some (part :: parts, t)
    | t => some ([part], t)

/-- A text without a comment at its head, if the comment is well formed. -/
def skipComment? (t : Text) : Option Text :=
  match t with
  | .char '#' :: rest =>
    let comment := rest.takeWhile (· != .char '\n')
    if comment.any isForbidden then none else some (rest.drop comment.length)
  | _ => some t

/-- A text without the blanks, line feeds and comments at its head. -/
def skipInArray? : Nat → Text → Option Text
  | 0, _ => none
  | fuel + 1, t =>
    match t.dropWhile isBlankOrBreak with
    | .char '#' :: rest => (skipComment? (.char '#' :: rest)).bind (skipInArray? fuel)
    | t => some t

/-- A scalar other than a string, and what follows it. -/
def readScalar (t : Text) : Except Refusal (Value × Text) := do
  match Text.dropStart? t (text "true") with
  | some after => return (.bool true, after)
  | none =>
  match Text.dropStart? t (text "false") with
  | some after => return (.bool false, after)
  | none =>
  match ← readDate? t with
  | some found => return found
  | none =>
  match readBased? t with
  | some found => return found
  | none =>
  match ← readDecimal? t with
  | some found => return found
  | none => orMalformed (readSpecial? t)

mutual

/-- The value at the head of a text, and what follows it. -/
def readValue : Nat → Text → Except Refusal (Value × Text)
  | 0, _ => .error .malformed
  | fuel + 1, t =>
    match t with
    | .char '"' :: _ => orMalformed ((readString (.char '"') t).map fun (s, t) => (.str s, t))
    | .char '\'' :: _ => orMalformed ((readString (.char '\'') t).map fun (s, t) => (.str s, t))
    | .char '[' :: rest => do
      let t ← orMalformed (skipInArray? (rest.length + 1) rest)
      match t with
      | .char ']' :: after => return (.list [], after)
      | _ =>
        let (items, after) ← readItems fuel t
        return (.list items, after)
    | .char '\x7b' :: rest =>
      match skipBlanks rest with
      | .char '\x7d' :: after => .ok (.object [], after)
      | t => do
        let (members, after) ← readInline fuel [] {} t
        return (.object members, after)
    | _ => readScalar t

/-- The items of an array up to its closing bracket, and what follows it. -/
def readItems : Nat → Text → Except Refusal (List Value × Text)
  | 0, _ => .error .malformed
  | fuel + 1, t => do
    let (item, t) ← readValue fuel t
    let t ← orMalformed (skipInArray? (t.length + 1) t)
    match t with
    | .char ']' :: after => return ([item], after)
    | .char ',' :: rest =>
      let t ← orMalformed (skipInArray? (rest.length + 1) rest)
      match t with
      | .char ']' :: after => return ([item], after)
      | _ =>
        let (items, after) ← readItems fuel t
        return (item :: items, after)
    | _ => .error .malformed

/-- The members of an inline table up to its closing brace, and what follows it. -/
def readInline : Nat → Members → Marks → Text → Except Refusal (Members × Text)
  | 0, _, _, _ => .error .malformed
  | fuel + 1, table, marks, t => do
    let (key, t) ← orMalformed (readKey? (t.length + 1) t)
    let t ← orMalformed (takeMark? '=' t)
    let (value, t) ← readValue fuel (skipBlanks t)
    if marks.isComplete key then .error .malformed
    let table ← orMalformed (addValue false key.dropLast (key.getLast?.getD []) value table)
    match skipBlanks t with
    | .char '\x7d' :: after => return (table, after)
    | .char ',' :: rest =>
      readInline fuel table (if isContainer value then marks.close key else marks) (skipBlanks rest)
    | _ => .error .malformed

end

/-- The state between two statements: the tree, the marks and the current table. -/
structure State where
  tree : Members := []
  marks : Marks := {}
  header : KeyPath := []

/-- A header, and what follows its closing bracket. -/
def readHeader (state : State) (t : Text) : Except Refusal (State × Text) := do
  let marks := state.marks.settle
  let (key, t) ← orMalformed (readKey? (t.length + 1) (skipBlanks t))
  if marks.isDeclared key || marks.isComplete key then .error .malformed
  let tree ← orMalformed (openTable key state.tree)
  let t ← orMalformed (takeMark? ']' t)
  return (⟨tree, marks.declare key, key⟩, t)

/-- A header in double brackets, and what follows its closing brackets. -/
def readArrayHeader (state : State) (t : Text) : Except Refusal (State × Text) := do
  let marks := state.marks.settle
  let (key, t) ← orMalformed (readKey? (t.length + 1) (skipBlanks t))
  if marks.isComplete key then .error .malformed
  let tree ← orMalformed (appendTable key state.tree)
  let t ← orMalformed (takeMark? ']' t)
  let t ← orMalformed (takeMark? ']' t)
  return (⟨tree, (marks.forget key).declare key, key⟩, t)

/-- The paths of the tables that a dotted key opens below the current table. -/
def openedTables (header key : KeyPath) : List KeyPath :=
  (List.range (key.length - 1)).map fun i => header ++ key.take (i + 1)

/-- A key with its value, and what follows it. -/
def readPair (state : State) (t : Text) : Except Refusal (State × Text) := do
  let (key, t) ← orMalformed (readKey? (t.length + 1) t)
  let t ← orMalformed (takeMark? '=' t)
  let (value, t) ← readValue (2 * t.length + 2) (skipBlanks t)
  let opened := openedTables state.header key
  if opened.any state.marks.isDeclared then .error .malformed
  let marks := opened.foldl Marks.await state.marks
  let parent := state.header ++ key.dropLast
  if marks.isComplete parent then .error .malformed
  let tree ← orMalformed (addValue true parent (key.getLast?.getD []) value state.tree)
  let marks := if isContainer value then marks.close (state.header ++ key) else marks
  return ({ state with tree := tree, marks := marks }, t)

/-- One statement, and what follows it. -/
def readStatement (state : State) (t : Text) : Except Refusal (State × Text) :=
  match t with
  | .char '[' :: .char '[' :: rest => readArrayHeader state rest
  | .char '[' :: rest => readHeader state rest
  | .char '#' :: _ => .ok (state, t)
  | _ => readPair state t

/-- The statements of a document. -/
def readStatements : Nat → State → Text → Except Refusal Members
  | 0, _, _ => .error .malformed
  | fuel + 1, state, t =>
    match skipBlanks t with
    | [] => .ok state.tree
    | .char '\n' :: rest => readStatements fuel state rest
    | t => do
      let (state, t) ← readStatement state t
      match ← orMalformed (skipComment? (skipBlanks t)) with
      | [] => return state.tree
      | .char '\n' :: rest => readStatements fuel state rest
      | _ => .error .malformed

/-- A text with CR LF turned into LF. -/
def joinLineEnds : Text → Text
  | [] => []
  | .char '\r' :: .char '\n' :: rest => .char '\n' :: joinLineEnds rest
  | c :: rest => c :: joinLineEnds rest

/-- The table that a document describes. -/
def read (document : Text) : Except Refusal Members :=
  let t := joinLineEnds document
  readStatements (t.length + 1) {} t

end Toml

end DiagnosticRelay
