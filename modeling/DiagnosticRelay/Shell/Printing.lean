import DiagnosticRelay.Number.Binary64
import DiagnosticRelay.Shell.Arithmetic

/-!
# Printing in shell scripts

Two commands write their arguments.  `echo` puts blanks between them and a line feed
after them, and reads escapes in them.  `printf` reads a format: escapes stand for
code points, each conversion takes one argument, and while arguments are left the
format is used again.  A number that cannot be read is complained about, and what
could be read of it is printed all the same.
-/

namespace DiagnosticRelay

namespace Shell

namespace Printing

/-! ## Escapes -/

/-- The values of at most so many octal digits at the head of a text. -/
def takeOctal : Nat → Text → List Nat
  | 0, _ => []
  | _ + 1, [] => []
  | width + 1, c :: rest =>
    match c.asciiDigit?.filter (· < 8) with
    | some d => d :: takeOctal width rest
    | none => []

/-- The octet of some octal digits. -/
def ofOctal (digits : List Nat) : CodePoint := .ofValue (Arithmetic.ofDigits 8 digits % 256)

/-- The octet of an escape of one letter. -/
def letterEscape? : CodePoint → Option CodePoint
  | .char 'a' => some (.char '\x07')
  | .char 'b' => some (.char '\x08')
  | .char 'e' => some (.char '\x1b')
  | .char 'f' => some (.char '\x0c')
  | .char 'n' => some (.char '\n')
  | .char 'r' => some (.char '\r')
  | .char 't' => some (.char '\t')
  | .char 'v' => some (.char '\x0b')
  | .char '\\' => some (.char '\\')
  | _ => none

/-- The octet of the escape that a text after a backslash begins with, and its length; where there
is none, the backslash stands for itself. -/
def readEscape (t : Text) : CodePoint × Nat :=
  match takeOctal 3 t with
  | [] => match t.head?.bind letterEscape? with
    | some c => (c, 1)
    | none => (.char '\\', 0)
  | digits => (ofOctal digits, digits.length)

/-- The octet of the hexadecimal escape that a text after a backslash begins with, and its
length. -/
def hexEscape? : Text → Option (CodePoint × Nat)
  | .char 'x' :: high :: rest => do
    let first ← high.hexValue?
    match rest.head?.bind CodePoint.hexValue? with
    | some second => some (.ofValue (16 * first + second), 3)
    | none => some (.ofValue first, 2)
  | _ => none

/-- An argument with its escapes read, and whether the output ends there.  An octal escape may have
a zero before its digits, and if that is wanted there are hexadecimal escapes.

The second argument is the number of code points that belong to an escape already read. -/
def unescape (hex : Bool) : Nat → Text → Text × Bool
  | _, [] => ([], false)
  | skip + 1, _ :: rest => unescape hex skip rest
  | 0, c :: rest =>
    if c = .char '\\' then
      match rest with
      | .char 'c' :: _ => ([], true)
      | _ =>
        let zeros := match rest with
          | .char '0' :: d :: _ => if (d.asciiDigit?.filter (· < 8)).isSome then 1 else 0
          | _ => 0
        let (meaning, used) := ((hexEscape? rest).filter fun _ => hex).getD
          (readEscape (rest.drop zeros))
        let (t, ended) := unescape hex (zeros + used) rest
        (meaning :: t, ended)
    else
      let (t, ended) := unescape hex 0 rest
      (c :: t, ended)

/-- What `echo` writes for the arguments after its option. -/
def echoed (newline : Bool) : List Text → Text
  | [] => if newline then text "\n" else []
  | [argument] =>
    let (t, ended) := unescape false 0 argument
    if ended || !newline then t else t ++ text "\n"
  | argument :: arguments =>
    let (t, ended) := unescape false 0 argument
    if ended then t else t ++ text " " ++ echoed newline arguments

/-- What the program `echo` writes, which reads escapes only if asked to, and then hexadecimal ones
too; the flags say whether a line feed ends it and whether escapes are read. -/
def echoWithOptions (newline reads : Bool) : List Text → Text
  | first :: rest =>
    match first with
    | .char '-' :: letter :: letters =>
      if (letter :: letters).all (text "neE").contains then
        let reads := (letter :: letters).foldl (fun reads c =>
          if c = .char 'e' then true else if c = .char 'E' then false else reads) reads
        echoWithOptions (newline && !(letter :: letters).contains (.char 'n')) reads rest
      else written newline reads (first :: rest)
    | _ => written newline reads (first :: rest)
  | [] => written newline reads []
where
  /-- The arguments behind the options, with blanks between them. -/
  written (newline reads : Bool) (arguments : List Text) : Text :=
    let t := Text.join (text " ") arguments
    let (t, ended) := if reads then unescape true 0 t else (t, false)
    if ended || !newline then t else t ++ text "\n"

/-- What `echo` writes. -/
def echo : List Text → Text
  | first :: rest => if first = text "-n" then echoed false rest else echoed true (first :: rest)
  | [] => echoed true []

/-! ## Formats -/

/-- The flags, the width and the precision of a conversion. -/
structure Shape where
  left : Bool := false
  plus : Bool := false
  blank : Bool := false
  zeros : Bool := false
  alternative : Bool := false
  width : Nat := 0
  precision : Option Nat := none

namespace Shape

/-- A shape with one more flag. -/
def withFlag (shape : Shape) : CodePoint → Shape
  | .char '-' => { shape with left := true }
  | .char '+' => { shape with plus := true }
  | .char ' ' => { shape with blank := true }
  | .char '0' => { shape with zeros := true }
  | _ => { shape with alternative := true }

/-- A text filled up to the width, with blanks. -/
def pad (shape : Shape) (t : Text) : Text :=
  let missing := List.replicate (shape.width - t.length) (CodePoint.char ' ')
  if shape.left then t ++ missing else missing ++ t

/-- Digits behind a sign or a mark, filled up to the width. -/
def number (shape : Shape) (head digits : Text) (mayFill : Bool) : Text :=
  let digits := List.replicate (shape.precision.getD 1 - digits.length) (CodePoint.char '0')
    ++ digits
  let missing := shape.width - (head.length + digits.length)
  if shape.zeros && !shape.left && mayFill then
    head ++ List.replicate missing (.char '0') ++ digits
  else shape.pad (head ++ digits)

/-- The sign of a number. -/
def sign (shape : Shape) (negative : Bool) : Text :=
  if negative then text "-" else if shape.plus then text "+" else if shape.blank then text " "
  else []

/-- An integer in decimal. -/
def decimal (shape : Shape) (z : Int) : Text :=
  let digits := if z = 0 ∧ shape.precision = some 0 then [] else Decimal.ofNat z.natAbs
  shape.number (shape.sign (z < 0)) digits shape.precision.isNone

/-- A natural number in a base with a mark in front. -/
def based (shape : Shape) (base : Nat) (upper : Bool) (n : Nat) : Text :=
  let digits := (Nat.toDigits base n).map fun c => CodePoint.char (if upper then c.toUpper else c)
  let digits := if n = 0 ∧ shape.precision = some 0 then [] else digits
  let head := if shape.alternative && base == 16 && n != 0 then text (if upper then "0X" else "0x")
    else if shape.alternative && base == 8 && n != 0 then text "0" else []
  shape.number head digits shape.precision.isNone

/-- A number with a fixed count of decimals. -/
def fixed (shape : Shape) (x : Binary64) : Text :=
  match x with
  | .nan => shape.pad (text "nan")
  | .infinite negative => shape.pad (shape.sign negative ++ text "inf")
  | .finite negative mantissa exponent =>
    let places := shape.precision.getD 6
    let (num, den) := Binary64.magnitude mantissa exponent
    let scaled := Decimal.ofNat (Binary64.roundHalfEven (num * Nat.pow 10 places) den)
    let scaled := List.replicate (places + 1 - scaled.length) (CodePoint.char '0') ++ scaled
    let whole := scaled.take (scaled.length - places)
    let fraction := if places = 0 then [] else .char '.' :: scaled.drop (scaled.length - places)
    { shape with precision := none }.number (shape.sign negative) (whole ++ fraction) true

end Shape

/-- What has been printed, the latest complaint first, and which arguments are left. -/
structure Progress where
  written : Text := []
  arguments : List Text
  complaints : List Text := []
  status : Nat := 0
  ended : Bool := false

namespace Progress

/-- Writes a text. -/
def write (progress : Progress) (t : Text) : Progress :=
  { progress with written := progress.written ++ t }

/-- Takes the next argument. -/
def take (progress : Progress) : Text × Progress :=
  (progress.arguments.head?.getD [], { progress with arguments := progress.arguments.drop 1 })

/-- Records a complaint. -/
def complain (progress : Progress) (complaint : Text) : Progress :=
  { progress with complaints := complaint :: progress.complaints, status := 1 }

/-- Stops for good because of a bad format. -/
def refuse (progress : Progress) (complaint : Text) : Progress :=
  { progress.complain complaint with status := 2, ended := true }

/-- Complains about an argument of which something was left unread. -/
def checked (progress : Progress) (argument rest : Text) (inRange : Bool) : Progress :=
  if rest.isEmpty then
    if inRange then progress
    else progress.complain (argument ++ text ": Numerical result out of range")
  else if rest.length = argument.length then
    progress.complain (argument ++ text ": expected numeric value")
  else progress.complain (argument ++ text ": not completely converted")

/-- The next argument as an integer between two bounds; after a quote the code of the next octet
counts. -/
def takeInteger (progress : Progress) (low high : Int) : Int × Progress :=
  let (argument, progress) := progress.take
  match argument with
  | .char '\'' :: rest => ((rest.head?.map fun c => (c.value : Int)).getD 0, progress)
  | .char '"' :: rest => ((rest.head?.map fun c => (c.value : Int)).getD 0, progress)
  | _ =>
    let (z, rest) := Arithmetic.takeInteger argument
    (max low (min high z), progress.checked argument rest (low ≤ z && z ≤ high))

/-- The next argument as a decimal number. -/
def takeDecimal (progress : Progress) : Binary64 × Progress :=
  let (argument, progress) := progress.take
  let unsigned := match argument with
    | .char '-' :: rest => rest
    | .char '+' :: rest => rest
    | t => t
  let isDigit (c : CodePoint) : Bool := c.asciiDigit?.isSome
  let whole := unsigned.takeWhile isDigit
  let (fraction, rest) := match unsigned.drop whole.length with
    | .char '.' :: more => (more.takeWhile isDigit, more.dropWhile isDigit)
    | more => ([], more)
  let digits := (whole ++ fraction).filterMap CodePoint.asciiDigit?
  if digits.isEmpty then (.zero false, progress.checked argument argument true)
  else
    (.ofScientific (argument.head? == some (.char '-')) (Arithmetic.ofDigits 10 digits)
      (-(fraction.length : Int)), progress.checked argument rest true)

end Progress

/-- Carries out the conversion of a letter, whose whole spelling is given too. -/
def convert (progress : Progress) (shape : Shape) (letter : CodePoint) (spelling : Text) :
    Progress :=
  let cut (t : Text) : Text := match shape.precision with
    | some n => t.take n
    | none => t
  let signed := progress.takeInteger (-Int.pow 2 63) (Int.pow 2 63 - 1)
  let unsigned := progress.takeInteger (1 - Int.pow 2 64) (Int.pow 2 64 - 1)
  let word := (unsigned.1 % Int.pow 2 64).toNat
  let whole := progress.take
  let decimal := progress.takeDecimal
  match letter with
  | .char 's' => whole.2.write (shape.pad (cut whole.1))
  | .char 'b' =>
    let (t, ended) := unescape false 0 whole.1
    { whole.2.write (shape.pad (cut t)) with ended := ended }
  | .char 'c' => whole.2.write (shape.pad [whole.1.head?.getD (.char '\x00')])
  | .char 'd' => signed.2.write (shape.decimal signed.1)
  | .char 'i' => signed.2.write (shape.decimal signed.1)
  | .char 'u' => unsigned.2.write (shape.based 10 false word)
  | .char 'o' => unsigned.2.write (shape.based 8 false word)
  | .char 'x' => unsigned.2.write (shape.based 16 false word)
  | .char 'X' => unsigned.2.write (shape.based 16 true word)
  | .char 'f' => decimal.2.write (shape.fixed decimal.1)
  | .char 'F' => decimal.2.write (shape.fixed decimal.1)
  | _ => progress.refuse (spelling ++ text ": invalid directive")

/-- The width or precision that some text begins with, which may be taken from an argument, and its
length. -/
def takeCount (progress : Progress) (t : Text) : Int × Nat × Progress :=
  match t with
  | .char '*' :: _ =>
    let (z, progress) := progress.takeInteger (-Int.pow 2 31) (Int.pow 2 31 - 1)
    (z, 1, progress)
  | _ =>
    let digits := (t.takeWhile fun c => c.asciiDigit?.isSome).filterMap CodePoint.asciiDigit?
    (Arithmetic.ofDigits 10 digits, digits.length, progress)

/-- Carries out the conversion that a text after a percent sign begins with; the length of the
conversion comes with what has been printed. -/
def convertAt (progress : Progress) (t : Text) : Nat × Progress :=
  let flags := t.takeWhile [CodePoint.char '#', .char '-', .char '+', .char ' ', .char '0'].contains
  let shape := flags.foldl Shape.withFlag {}
  let (width, widthLength, progress) := takeCount progress (t.drop flags.length)
  let shape := { shape with left := shape.left || width < 0, width := width.natAbs }
  let used := flags.length + widthLength
  let (shape, used, progress) := match t.drop used with
    | .char '.' :: rest =>
      let (precision, length, progress) := takeCount progress rest
      ({ shape with precision := if precision < 0 then none else some precision.natAbs },
        used + 1 + length, progress)
    | _ => (shape, used, progress)
  match t.drop used with
  | [] => (used, progress.refuse (text "missing format character"))
  | letter :: _ =>
    (used + 1, convert progress shape letter (.char '%' :: t.take (used + 1)))

/-- One use of a format.

The first argument is the number of code points that belong to something already read. -/
def formatOnce : Nat → Text → Progress → Progress
  | _, [], progress => progress
  | skip + 1, _ :: rest, progress => formatOnce skip rest progress
  | 0, c :: rest, progress =>
    if progress.ended then progress
    else if c = .char '\\' then
      let (meaning, used) := readEscape rest
      formatOnce used rest (progress.write [meaning])
    else if c = .char '%' then
      if rest.head? = some (.char '%') then formatOnce 1 rest (progress.write [c])
      else
        let (used, progress) := convertAt progress rest
        formatOnce used rest progress
    else formatOnce 0 rest (progress.write [c])

/-- What a format writes for some arguments, with so many uses allowed. -/
def format : Nat → Text → Progress → Progress
  | 0, _, progress => progress
  | uses + 1, pattern, progress =>
    let before := progress.arguments.length
    let progress := formatOnce 0 pattern progress
    if progress.ended || progress.arguments.isEmpty || progress.arguments.length = before then
      progress
    else format uses pattern progress

/-- What `printf` writes and complains about. -/
def printf (arguments : List Text) : Progress :=
  let nothing : Progress := { arguments := [] }
  let apply (arguments : List Text) : Progress :=
    match arguments with
    | [] => nothing.refuse (text "usage: printf format [arg ...]")
    | pattern :: arguments => format (arguments.length + 1) pattern { arguments := arguments }
  match arguments with
  | (.char '-' :: option :: letters) :: rest =>
    if option = .char '-' ∧ letters.isEmpty then apply rest
    else nothing.refuse (text "Illegal option -" ++ [option])
  | arguments => apply arguments

end Printing

end Shell

end DiagnosticRelay
