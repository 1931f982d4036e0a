import DiagnosticRelay.Shell.Source

/-!
# Leaves of the shell language

What can be told about a script from the code points at its head alone: which of them have
a meaning at which place, which operator stands there, how the request of an expansion
in braces is spelled, where backquotes close.
-/

namespace DiagnosticRelay

namespace Shell

namespace Reading

/-- Where parts of a word are read: in a bare word, between double quotes, in a here-document, in
braces outside or inside double quotes, or in an arithmetic expression with so many open
parentheses. -/
inductive Place where
  | bare
  | doubleQuotes
  | document
  | braces (quoted : Bool)
  | arithmetic (depth : Nat)
  deriving DecidableEq

/-- Whether what is read at a place counts as quoted. -/
def Place.isQuoted : Place → Bool
  | .bare => false
  | .braces quoted => quoted
  | _ => true

/-- Whether a code point ends a bare word. -/
def endsWord (c : CodePoint) : Bool :=
  [CodePoint.char ' ', .char '\t', .char '\n', .char ';', .char '&', .char '|', .char '<',
    .char '>', .char '(', .char ')'].contains c

/-- Whether a code point stands for itself at every place. -/
def isPlain (c : CodePoint) : Bool :=
  !(endsWord c || [CodePoint.char '\'', .char '"', .char '\\', .char '$', .char '\x60',
    .char '\x7d'].contains c)

/-- Whether a backslash at a place takes away the meaning of a code point. -/
def isEscapable (place : Place) (c : CodePoint) : Bool :=
  match place with
  | .bare | .braces false => true
  | .doubleQuotes | .arithmetic _ =>
    [CodePoint.char '$', .char '\x60', .char '"', .char '\\'].contains c
  | .document => [CodePoint.char '$', .char '\x60', .char '\\'].contains c
  | .braces true =>
    [CodePoint.char '$', .char '\x60', .char '"', .char '\\', .char '\x7d'].contains c

/-- The operators of the language, longer ones first. -/
def operators : List Text :=
  [text ";;", text "&&", text "||", text ";", text "|", text "(", text ")", text "&", text "\n"]

/-- The operators of redirections, longer ones first. -/
def redirectionOperators : List Text :=
  [text "<<-", text "<<", text "<&", text "<>", text "<", text ">>", text ">&", text ">|",
    text ">"]

/-- The first of some operators that a text begins with. -/
def operatorAt? (operators : List Text) (t : Text) : Option Text :=
  operators.find? fun operator => Text.startsWith t operator

/-- The script between backquotes, up to the closing one, with the backslashes dropped that belong
to the quoting. -/
def backquoted (quoted : Bool) : Text → Option (Text × Nat)
  | [] => none
  | .char '\x60' :: _ => some ([], 1)
  | .char '\\' :: .char '\n' :: rest =>
    (backquoted quoted rest).map fun (t, used) => (t, used + 2)
  | .char '\\' :: c :: rest =>
    (backquoted quoted rest).map fun (t, used) =>
      if [CodePoint.char '$', .char '\x60', .char '\\'].contains c
          || (quoted && c == .char '"') then (c :: t, used + 2)
      else (.char '\\' :: c :: t, used + 2)
  | c :: rest => (backquoted quoted rest).map fun (t, used) => (c :: t, used + 1)

/-- What the text after a parameter in braces asks for, with the length of that request. -/
inductive BraceUse where
  | plain
  | fallback (kind : Fallback) (emptyCounts : Bool)
  | trim (atEnd longest : Bool)
  | malformed

/-- The request that a text after a parameter in braces begins with, and its length. -/
def braceUse : Text → BraceUse × Nat
  | .char '\x7d' :: _ => (.plain, 0)
  | .char ':' :: .char '-' :: _ => (.fallback .use true, 2)
  | .char ':' :: .char '=' :: _ => (.fallback .assign true, 2)
  | .char ':' :: .char '?' :: _ => (.fallback .fail true, 2)
  | .char ':' :: .char '+' :: _ => (.fallback .replace true, 2)
  | .char '-' :: _ => (.fallback .use false, 1)
  | .char '=' :: _ => (.fallback .assign false, 1)
  | .char '?' :: _ => (.fallback .fail false, 1)
  | .char '+' :: _ => (.fallback .replace false, 1)
  | .char '%' :: .char '%' :: _ => (.trim true true, 2)
  | .char '%' :: _ => (.trim true false, 1)
  | .char '#' :: .char '#' :: _ => (.trim false true, 2)
  | .char '#' :: _ => (.trim false false, 1)
  | _ => (.malformed, 0)

/-- The parameter in braces that a text begins with, and its length. -/
def braceParameter? (t : Text) : Option (Parameter × Nat) :=
  match t with
  | [] => none
  | c :: _ =>
    if isNameStart c then
      let name := t.takeWhile isNameChar
      some (.named name, name.length)
    else if c.asciiDigit?.isSome then
      let digits := t.takeWhile fun d => d.asciiDigit?.isSome
      some (.position ((number? digits).getD 0), digits.length)
    else (markParameter? c).map fun parameter => (parameter, 1)

/-- The parameter of which a text after an opening brace asks the size, and the length of that
request. -/
def sizeParameter? (t : Text) : Option (Parameter × Nat) :=
  match t with
  | .char '#' :: rest => do
    let (parameter, used) ← braceParameter? rest
    if (rest.drop used).head? = some (.char '\x7d') then some (parameter, used + 1) else none
  | _ => none

/-- The assignment that a word is, if it begins with a name and an equals sign. -/
def assignment? (w : Word) : Option (Text × Word) :=
  match w with
  | .literal t false :: rest =>
    match Text.cutAt? (.char '=') t with
    | some (name, value) =>
      if isName name then
        some (name, if value.isEmpty then rest else .literal value false :: rest)
      else none
    | none => none
  | _ => none

/-- Adds a part to the parts of a word, the latest first; runs of plain text are joined. -/
def addPart (parts : Word) (part : WordPart) : Word :=
  match part, parts with
  | .literal t false, .literal before false :: rest => .literal (before ++ t) false :: rest
  | part, parts => part :: parts

/-- Whether some parts have an expansion to all arguments. -/
def hasEach (w : Word) : Bool := w.any fun part => match part with
  | .parameter .each _ => true
  | _ => false

/-- The delimiter of a here-document, and whether any of it was quoted. -/
def delimiter (w : Word) : Text × Bool :=
  (w.flatMap fun part => match part with
    | .literal t _ => t
    | _ => [],
   w.any fun part => match part with
    | .literal _ quoted => quoted
    | _ => true)

end Reading

end Shell

end DiagnosticRelay
