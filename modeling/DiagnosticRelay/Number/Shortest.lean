import DiagnosticRelay.Number.Binary64
import DiagnosticRelay.Number.Decimal

/-!
# Floating-point numbers in decimal

A floating-point number is written with the fewest significant digits that read back
as the same number, and of the decimals with so few digits the one nearest to the
number; an exact tie goes to the even last digit.

The digits are found by looking.  For one, two, up to seventeen digits, the two
neighbours of the number on the decimal grid of that many digits are read back, and
the first grid with a hit wins.  Looking at the two neighbours is enough: the
decimals that read back as a given number form an interval around it, so if any
point of a grid lies in the interval, a neighbour does.

A number below `10 ^ 16` and not below `10 ^ -4` is written positionally, with `.0`
if it is whole; any other has one digit before the point and an exponent of at least
two digits with its sign.
-/

namespace DiagnosticRelay

namespace Binary64

/-- Whether a quotient is below a power of ten. -/
def belowPowerOfTen (num den : Nat) (k : Int) : Bool :=
  if 0 ≤ k then num < den * Nat.pow 10 k.toNat else num * Nat.pow 10 (-k).toNat < den

/-- The least power of ten above a positive quotient, by its exponent. -/
def decimalExponent (num den : Nat) : Int :=
  let guess : Int := ((Nat.log2 num : Int) - (Nat.log2 den : Int)) * 30103 / 100000 - 1
  if belowPowerOfTen num den guess then guess
  else if belowPowerOfTen num den (guess + 1) then guess + 1
  else if belowPowerOfTen num den (guess + 2) then guess + 2
  else guess + 3

/-- The integer part of a quotient divided by a power of ten, and twice the part cut off
compared with the unit. -/
def gridBelow (num den : Nat) (unit : Int) : Nat × Ordering :=
  let (num, den) := if 0 ≤ unit then (num, den * Nat.pow 10 unit.toNat)
    else (num * Nat.pow 10 (-unit).toNat, den)
  (num / den, compare (2 * (num % den)) den)

/-- The better of the two neighbours on the grid that read back, if one does. -/
def hitOnGrid? (mantissa : Nat) (exponent : Int) (unit : Int) : Option Nat :=
  let (num, den) := magnitude mantissa exponent
  let (low, cut) := gridBelow num den unit
  let readsBack (digits : Nat) : Bool :=
    ofScientific false digits unit == .finite false mantissa exponent
  match readsBack low, readsBack (low + 1) with
  | true, true =>
    match cut with
    | .lt => some low
    | .gt => some (low + 1)
    | .eq => some (if low % 2 = 0 then low else low + 1)
  | true, false => some low
  | false, true => some (low + 1)
  | false, false => none

/-- The first hit on the grids of so many digits and more. -/
def firstHit (mantissa : Nat) (exponent top : Int) : Nat → Nat → Nat × Int
  | 0, _ => (0, 0)
  | tries + 1, digits =>
    let unit := top - digits
    match hitOnGrid? mantissa exponent unit with
    | some hit => (hit, unit)
    | none => firstHit mantissa exponent top tries (digits + 1)

/-- The shortest decimal `digits * 10 ^ exponent` of a positive finite number. -/
def shortestDecimal (mantissa : Nat) (exponent : Int) : Nat × Int :=
  let (num, den) := magnitude mantissa exponent
  firstHit mantissa exponent (decimalExponent num den) 17 1

/-- A list without the zeros at its end. -/
def dropTrailingZeros (digits : Text) : Text :=
  (digits.reverse.dropWhile (· == .char '0')).reverse

/-- So many zeros. -/
def zeros (count : Nat) : Text := List.replicate count (.char '0')

/-- The layout of significant digits whose decimal point stands after `point` of them. -/
def layOut (digits : Text) (point : Int) : Text :=
  let count : Int := digits.length
  if -4 < point ∧ point ≤ 16 then
    if point ≤ 0 then text "0." ++ zeros (-point).toNat ++ digits
    else if count ≤ point then digits ++ zeros (point - count).toNat ++ text ".0"
    else digits.take point.toNat ++ .char '.' :: digits.drop point.toNat
  else
    let power := point - 1
    let lead := digits.take 1 ++ (if count ≤ 1 then [] else .char '.' :: digits.drop 1)
    let size := Decimal.ofNat power.natAbs
    lead ++ .char 'e' :: .char (if power < 0 then '-' else '+')
      :: (zeros (2 - size.length) ++ size)

/-- A floating-point number in decimal. -/
def display : Binary64 → Text
  | .nan => text "nan"
  | .infinite negative => text (if negative then "-inf" else "inf")
  | .finite negative mantissa exponent =>
    let magnitude :=
      if mantissa = 0 then text "0.0"
      else
        let (hit, unit) := shortestDecimal mantissa exponent
        let all := Decimal.ofNat hit
        layOut (dropTrailingZeros all) (all.length + unit)
    if negative then .char '-' :: magnitude else magnitude

/-- A number with one digit after the point, half way to the even digit. -/
def displayTenths : Binary64 → Text
  | .finite negative mantissa exponent =>
    let (num, den) := magnitude mantissa exponent
    let tenths := roundHalfEven (10 * num) den
    let size := Decimal.ofNat (tenths / 10) ++ .char '.' :: Decimal.ofNat (tenths % 10)
    if negative then .char '-' :: size else size
  | other => display other

end Binary64

end DiagnosticRelay
