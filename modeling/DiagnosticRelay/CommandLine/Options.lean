import DiagnosticRelay.Text.Basic

/-!
# Options and operands

The words of a command line are options, values of options and operands, in any
order.  A long option may carry its value after an equals sign, a short one directly
after its letter; otherwise the next word is the value, whatever it looks like.  Short
options without values may share a hyphen.  After two hyphens alone, all words are
operands; a single hyphen is an operand too.

Scanning knows nothing of what the options mean.  It gives the options in the order in
which they were written, each under the name of its setting.
-/

namespace DiagnosticRelay

namespace CommandLine

/-- An option: the ways to write it, the setting that it belongs to, and whether it takes a
value. -/
structure OptionSpec where
  spellings : List Text
  setting : Text
  takesValue : Bool

/-- What is wrong with a command line. -/
inductive UsageError where
  | unknownCommand
  | unknownOption
  | missingValue
  | unexpectedValue
  | missingOperand
  | extraOperand
  | badValue
  deriving DecidableEq

/-- The options of a command line by their settings, and its operands. -/
structure Scanned where
  settings : List (Text × Text) := []
  operands : List Text := []

namespace Scanned

/-- Puts an operand in front. -/
def withOperand (scanned : Scanned) (operand : Text) : Scanned :=
  { scanned with operands := operand :: scanned.operands }

/-- All values of a setting, in order. -/
def all (scanned : Scanned) (setting : String) : List Text :=
  scanned.settings.filterMap fun entry => if entry.1 = text setting then some entry.2 else none

/-- The last value of a setting. -/
def last? (scanned : Scanned) (setting : String) : Option Text := (scanned.all setting).getLast?

/-- Whether a setting was made at all. -/
def has (scanned : Scanned) (setting : String) : Bool := (scanned.last? setting).isSome

end Scanned

/-- The option that is written in a way. -/
def find? (specs : List OptionSpec) (spelling : Text) : Option OptionSpec :=
  specs.find? fun spec => spec.spellings.contains spelling

/-- What a word that begins with a hyphen amounts to: settings that it makes by itself, and
perhaps a setting whose value is the next word. -/
abbrev Word := List (Text × Text) × Option Text

/-- A word of short options, without its hyphen. -/
def shortOptions (specs : List OptionSpec) : Text → Except UsageError Word
  | [] => .ok ([], none)
  | letter :: rest =>
    match find? specs [.char '-', letter] with
    | none => .error .unknownOption
    | some spec =>
      if spec.takesValue then
        if rest.isEmpty then .ok ([], some spec.setting) else .ok ([(spec.setting, rest)], none)
      else (shortOptions specs rest).map fun word => ((spec.setting, []) :: word.1, word.2)

/-- A long option, perhaps with its value. -/
def longOption? (specs : List OptionSpec) (word : Text) : Option (Except UsageError Word) :=
  let (spelling, value) := match Text.cutAt? (.char '=') word with
    | some (spelling, value) => (spelling, some value)
    | none => (word, none)
  if Text.startsWith spelling (text "--") then
    (find? specs spelling).map fun spec =>
      match spec.takesValue, value with
      | true, some value => .ok ([(spec.setting, value)], none)
      | true, none => .ok ([], some spec.setting)
      | false, some _ => .error .unexpectedValue
      | false, none => .ok ([(spec.setting, [])], none)
  else none

/-- A word that begins with a hyphen. -/
def optionWord (specs : List OptionSpec) (word : Text) : Except UsageError Word :=
  match longOption? specs word with
  | some found => found
  | none =>
    if Text.startsWith word (text "--") then .error .unknownOption
    else shortOptions specs (word.drop 1)

/-- Whether a word is written as an option. -/
def isOption (word : Text) : Bool := Text.startsWith word (text "-") && 1 < word.length

/-- Puts the settings of a word in front. -/
def Scanned.withWord (scanned : Scanned) (settings : List (Text × Text)) : Scanned :=
  { scanned with settings := settings ++ scanned.settings }

/-- The options and operands of some words. -/
def scan (specs : List OptionSpec) : List Text → Except UsageError Scanned
  | [] => .ok {}
  | word :: rest =>
    if word = text "--" then .ok { operands := rest }
    else if isOption word then
      match optionWord specs word with
      | .error failure => .error failure
      | .ok (settings, none) => (scan specs rest).map (·.withWord settings)
      | .ok (settings, some setting) =>
        match rest with
        | [] => .error .missingValue
        | value :: rest => (scan specs rest).map (·.withWord (settings ++ [(setting, value)]))
    else (scan specs rest).map (·.withOperand word)

end CommandLine

end DiagnosticRelay
