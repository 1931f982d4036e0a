import DiagnosticRelay.Text.Basic

/-!
# The syntax of shell scripts

Checkers are often wrapped in small scripts, and a rehearsed check has to run them.  This
module holds what a script is made of.

A *word* is a list of parts: literal text and expansions.  Each part knows whether it was
quoted, because only unquoted parts are split into fields and matched as patterns.  A *command* is
a simple command or is put together from others; the words of an expansion may hold
whole scripts again, so words and commands are defined together.

The shell works on octets.  In its texts every code point stands for the octet of
the same number.
-/

namespace DiagnosticRelay

namespace Shell

/-- What an expansion asks for. -/
inductive Parameter where
  | named (name : Text)
  | position (index : Nat)
  | each
  | joined
  | count
  | status
  | process
  | background
  | flags
  deriving DecidableEq

/-- What to do about a parameter that has no value: take a word, set it to a word and take that, or
fail; or take a word exactly when it does have one. -/
inductive Fallback where
  | use
  | assign
  | fail
  | replace
  deriving DecidableEq

mutual

/-- A part of a word. -/
inductive WordPart where
  | literal (t : Text) (quoted : Bool)
  | parameter (parameter : Parameter) (quoted : Bool)
  | size (parameter : Parameter) (quoted : Bool)
  | fallback (parameter : Parameter) (kind : Fallback) (emptyCounts : Bool)
      (word : List WordPart) (quoted : Bool)
  | trim (parameter : Parameter) (atEnd longest : Bool) (pattern : List WordPart) (quoted : Bool)
  | output (commands : List Command) (quoted : Bool)
  | arithmetic (expression : List WordPart) (quoted : Bool)
  | malformed

/-- Where an input or an output is led. -/
inductive Redirection where
  | follow (number : Nat) (target : List WordPart)
  | write (number : Nat) (append : Bool) (path : List WordPart)
  | read (number : Nat) (path : List WordPart)
  | document (number : Nat) (body : List WordPart)

/-- A command; those that expand words know the line they stand on. -/
inductive Command where
  | simple (line : Nat) (assignments : List (Text × List WordPart))
      (words : List (List WordPart)) (redirections : List Redirection)
  | redirected (line : Nat) (command : Command) (redirections : List Redirection)
  | pipeline (commands : List Command)
  | negated (command : Command)
  | both (first second : Command)
  | either (first second : Command)
  | background (command : Command)
  | group (commands : List Command)
  | subshell (commands : List Command)
  | branch (condition yes no : List Command)
  | loop (untilTrue : Bool) (condition body : List Command)
  | each (line : Nat) (name : Text) (words : Option (List (List WordPart))) (body : List Command)
  | choose (line : Nat) (subject : List WordPart)
      (arms : List (List (List WordPart) × List Command))
  | define (name : Text) (body : Command)

end

instance : Inhabited Command := ⟨.group []⟩

/-- A word is the concatenation of its parts. -/
abbrev Word := List WordPart

/-- The parentheses that a command amounts to, without their redirections. -/
def Command.subshell? : Command → Option Command
  | .subshell commands => some (.subshell commands)
  | .redirected _ command _ => subshell? command
  | .group [command] => subshell? command
  | _ => none

/-! ## Names -/

/-- Whether a code point is white space in a number or a set of fields. -/
def isSpace (c : CodePoint) : Bool := c == .char ' ' || (0x09 ≤ c.value && c.value ≤ 0x0D)

/-- Whether a code point can begin the name of a variable. -/
def isNameStart (c : CodePoint) : Bool := c.isAsciiLetter || c == .char '_'

/-- Whether a code point can stand in the name of a variable. -/
def isNameChar (c : CodePoint) : Bool := isNameStart c || c.asciiDigit?.isSome

/-- Whether a text is the name of a variable. -/
def isName (t : Text) : Bool := t.head?.any isNameStart && t.all isNameChar

/-- The number that a text spells in ASCII digits. -/
def number? (t : Text) : Option Nat :=
  if t.isEmpty then none
  else (t.mapM CodePoint.asciiDigit?).map (·.foldl (fun n d => 10 * n + d) 0)

/-- The parameters that are written as one mark. -/
def markParameter? : CodePoint → Option Parameter
  | .char '@' => some .each
  | .char '*' => some .joined
  | .char '#' => some .count
  | .char '?' => some .status
  | .char '$' => some .process
  | .char '!' => some .background
  | .char '-' => some .flags
  | _ => none

/-- A parameter as it is named in messages. -/
def Parameter.name : Parameter → Text
  | .named name => name
  | .position index => (toString index).toList.map .char
  | .each => text "@"
  | .joined => text "*"
  | .count => text "#"
  | .status => text "?"
  | .process => text "$"
  | .background => text "!"
  | .flags => text "-"

/-- A word without quotes and expansions, as it is spelled. -/
def bareText? : Word → Option Text
  | [] => some []
  | .literal t false :: rest => (bareText? rest).map (t ++ ·)
  | _ => none

/-- The words that have a meaning of their own where a command can begin. -/
def keywords : List Text :=
  [text "!", text "case", text "do", text "done", text "elif", text "else", text "esac", text "fi",
    text "for", text "if", text "in", text "then", text "until", text "while", text "\x7b",
    text "\x7d"]

/-- The special builtins, whose names cannot be those of functions. -/
def specialBuiltins : List Text :=
  [text ".", text ":", text "break", text "continue", text "eval", text "exec", text "exit",
    text "export", text "local", text "readonly", text "return", text "set", text "shift",
    text "times", text "trap", text "unset"]

/-! ## Errors -/

/-- What is wrong with a script. -/
inductive SyntaxFault where
  | unexpected (found : Text) (expected : Option Text)
  | unterminatedQuote
  | unterminatedOutput
  | missingBrace
  | missingParentheses
  | badFunctionName
  | badLoopName
  deriving DecidableEq

/-- A fault in words. -/
def SyntaxFault.message : SyntaxFault → Text
  | .unexpected found none => found ++ text " unexpected"
  | .unexpected found (some expected) =>
    found ++ text " unexpected (expecting " ++ expected ++ text ")"
  | .unterminatedQuote => text "Unterminated quoted string"
  | .unterminatedOutput => text "EOF in backquote substitution"
  | .missingBrace => text "Missing '\x7d'"
  | .missingParentheses => text "Missing '))'"
  | .badFunctionName => text "Bad function name"
  | .badLoopName => text "Bad for loop variable"

/-- A fault and the line where it was noticed. -/
structure SyntaxError where
  line : Nat
  fault : SyntaxFault
  deriving DecidableEq

end Shell

end DiagnosticRelay
