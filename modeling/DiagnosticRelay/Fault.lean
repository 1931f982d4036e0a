import DiagnosticRelay.Number.Decimal
import DiagnosticRelay.Text.Utf8

/-!
# What can go wrong

A fault is named by its cause, and its wording is a function of the cause.  Three
sources meet in one type: the conversion of digits to numbers and of numbers to digits, the
operating system when a program is started or a file is read, and whatever else started the
checker for us.

The one distinction that the rest of the library draws is `isStartFailure`.  A
program that cannot be started, and an argument or an output that cannot be
converted, is an ordinary outcome of a run and is reported with it; any other fault
stops the run.
-/

namespace DiagnosticRelay

/-- The refusals of the operating system that the library can meet. -/
inductive SystemError where
  | notFound
  | badExecutable
  | permissionDenied
  | notDirectory
  | isDirectory
  | nameTooLong
  deriving DecidableEq

namespace SystemError

/-- The conventional number of a refusal. -/
def number : SystemError → Nat
  | .notFound => 2
  | .badExecutable => 8
  | .permissionDenied => 13
  | .notDirectory => 20
  | .isDirectory => 21
  | .nameTooLong => 36

/-- The conventional wording of a refusal. -/
def description : SystemError → Text
  | .notFound => text "No such file or directory"
  | .badExecutable => text "Exec format error"
  | .permissionDenied => text "Permission denied"
  | .notDirectory => text "Not a directory"
  | .isDirectory => text "Is a directory"
  | .nameTooLong => text "File name too long"

end SystemError

/-- The kinds of fault that a launcher outside this library can report. -/
inductive LaunchFault where
  | notFound
  | permissionDenied
  | notDirectory
  | system
  | timedOut
  | invalidValue
  | invalidText
  | internal
  | missingKey
  deriving DecidableEq

/-- Why a time limit cannot be kept. -/
inductive LimitFault where
  | infinite
  | undefined
  | beyondWait
  | beyondClock
  deriving DecidableEq

/-- Why a time limit cannot be kept, in words. -/
def LimitFault.description : LimitFault → Text
  | .infinite => text "cannot convert float infinity to integer"
  | .undefined => text "cannot convert float NaN to integer"
  | .beyondWait => text "timeout is too large"
  | .beyondClock => text "timestamp too large to convert to C _PyTime_t"

/-- A fault, by its cause. -/
inductive Fault where
  | tooManyDigits (digits : Nat)
  | integerTooLong
  | system (error : SystemError) (path : Text)
  | unknownProgram (name : Text)
  | emptyCommand
  | embeddedNul
  | undecodable (failure : Utf8.Failure)
  | unencodable (half : Fin 0x800) (place count : Nat)
  | unprintable (half : Fin 0x800) (place count : Nat)
  | badVariableName
  | limit (fault : LimitFault)
  | launch (fault : LaunchFault) (detail : Text)
  deriving DecidableEq

namespace Fault

/-- The wording for surrogate halves that have no octets: the first of them, its place and how
many stand there together. -/
def encodingMessage (half : Fin 0x800) (place count : Nat) : Text :=
  text "'utf-8' codec can't encode "
    ++ (if count ≤ 1 then
        text "character '\\u" ++ Text.hexDigits 4 (0xD800 + half.val)
          ++ text "' in position " ++ Decimal.ofNat place
      else
        text "characters in position " ++ Decimal.ofNat place ++ [.char '-']
          ++ Decimal.ofNat (place + count - 1))
    ++ text ": surrogates not allowed"

/-- A fault in words. -/
def message : Fault → Text
  | .tooManyDigits digits =>
    text "Exceeds the limit (" ++ Decimal.ofNat Decimal.digitLimit
      ++ text " digits) for integer string conversion: value has " ++ Decimal.ofNat digits
      ++ text " digits; use sys.set_int_max_str_digits() to increase the limit"
  | .integerTooLong =>
    text "Exceeds the limit (" ++ Decimal.ofNat Decimal.digitLimit
      ++ text " digits) for integer string conversion; "
      ++ text "use sys.set_int_max_str_digits() to increase the limit"
  | .system error path =>
    text "[Errno " ++ Decimal.ofNat error.number ++ text "] " ++ error.description
      ++ text ": " ++ Text.quoted path
  | .unknownProgram name => text "Executable '" ++ name ++ text "' was not found on PATH"
  | .emptyCommand => text "subprocess command requires at least one argument"
  | .embeddedNul => text "embedded null byte"
  | .undecodable failure => failure.message
  | .unencodable half place count => encodingMessage half place count
  | .unprintable half place count =>
    encodingMessage half place count
      ++ text "\n*** You may need to add PYTHONIOENCODING=utf-8 to your environment ***"
  | .badVariableName => text "illegal environment variable name"
  | .limit fault => fault.description
  | .launch .missingKey detail => Text.quoted detail
  | .launch _ detail => detail

/-- Whether a fault counts as a program that could not be started. -/
def isStartFailure : Fault → Bool
  | .limit .undefined => true
  | .limit _ => false
  | .launch .internal _ => false
  | .launch .missingKey _ => false
  | _ => true

end Fault

end DiagnosticRelay
