import Mustache.Fault
import Mustache.Number.Double

/-!
The text of numbers. Whole numbers of more than 4300 digits have none.

A double is written with the fewest decimal digits that read back as the same double. The doubles
that are nearest to a given one fill an interval around it; for one digit, two digits and so on the
two decimals next to the number are tried, and the first length with one inside of the interval
wins. Seventeen digits always suffice.
-/

namespace Mustache.Number

set_option autoImplicit false

namespace Double

structure Quotient where
  numerator : Nat
  denominator : Nat

def Quotient.decimalExponent (q : Quotient) : Int :=
  if q.denominator ≤ q.numerator then (decimalLength (q.numerator / q.denominator) : Int) - 1
  else
    let places := decimalLength (q.denominator / q.numerator) - 1
    if q.denominator ≤ q.numerator * Nat.pow 10 places then -(places : Int) else -(places : Int) - 1

/-- The interval of numbers that are nearest to a double, both ends over one denominator with the
number itself in the middle. -/
structure Neighbourhood where
  low : Nat
  exact : Nat
  high : Nat
  denominator : Nat
  closed : Bool

/-- Below a power of two the doubles lie twice as dense. -/
def neighbourhood (x : Double) (mantissa : Nat) (exponent : Int) : Neighbourhood :=
  let dense := x.fraction == 0 && x.biasedExponent > 1
  let (unit, denominator) := powerRatio 1 (exponent - 2)
  ⟨(4 * mantissa - if dense then 1 else 2) * unit, 4 * mantissa * unit, (4 * mantissa + 2) * unit,
    denominator, mantissa % 2 == 0⟩

def Neighbourhood.holds (area : Neighbourhood) (digits : Nat) (exponent : Int) : Bool :=
  let factor := Nat.pow 10 exponent.toNat
  let divisor := Nat.pow 10 (-exponent).toNat
  let point := digits * factor * area.denominator
  if area.closed then area.low * divisor ≤ point && point ≤ area.high * divisor
  else area.low * divisor < point && point < area.high * divisor

/-- The decimal of so many digits below the number, if it reads back, or the one above; of the
two that do, the nearer, and of two equally near ones the even. -/
def Neighbourhood.candidate? (area : Neighbourhood) (exponent : Int) : Option Nat :=
  let factor := Nat.pow 10 exponent.toNat * area.denominator
  let scaledExact := area.exact * Nat.pow 10 (-exponent).toNat
  let below := scaledExact / factor
  let belowHolds := area.holds below exponent && below != 0
  let aboveHolds := area.holds (below + 1) exponent
  let rest := 2 * (scaledExact % factor)
  if belowHolds && aboveHolds then
    if rest < factor then some below
    else if rest > factor then some (below + 1)
    else if below % 2 = 0 then some below
    else some (below + 1)
  else if belowHolds then some below
  else if aboveHolds then some (below + 1)
  else none

def searchDigits (area : Neighbourhood) (leading : Int) : (attempts length : Nat) → Nat × Int
  | 0, length =>
      let exponent := leading - length + 1
      let factor := Nat.pow 10 exponent.toNat * area.denominator
      (area.exact * Nat.pow 10 (-exponent).toNat / factor, exponent)
  | attempts + 1, length =>
      let exponent := leading - length + 1
      match area.candidate? exponent with
      | some digits => (digits, exponent)
      | none => searchDigits area leading attempts (length + 1)

/-- The significant digits and the place of the decimal point among them: the number is
`0.digits * 10 ^ point`. -/
structure Shortest where
  digits : List Char
  point : Int
  deriving DecidableEq, Repr

def dropTrailingZeros (digits : List Char) : List Char :=
  (digits.reverse.dropWhile (· = '0')).reverse

def shortest (x : Double) (mantissa : Nat) (exponent : Int) : Shortest :=
  if mantissa = 0 then ⟨['0'], 1⟩
  else
    let area := neighbourhood x mantissa exponent
    let leading := Quotient.decimalExponent ⟨area.exact, area.denominator⟩
    let (digits, exponent) := searchDigits area leading 17 1
    let text := Nat.toDigits 10 digits
    ⟨dropTrailingZeros text, text.length + exponent⟩

/-- Numbers from a ten thousandth to below ten to the sixteenth are written with a decimal point,
others with an exponent of at least two digits. `whole` is what follows the point of a whole
number. -/
def Shortest.write (number : Shortest) (whole : List Char) : List Char :=
  let count : Int := number.digits.length
  if -4 < number.point && number.point ≤ 16 then
    if number.point ≤ 0 then
      '0' :: '.' :: List.replicate (-number.point).toNat '0' ++ number.digits
    else if count ≤ number.point then
      number.digits ++ List.replicate (number.point - count).toNat '0' ++ whole
    else
      number.digits.take number.point.toNat ++ '.' :: number.digits.drop number.point.toNat
  else
    let exponent := number.point - 1
    let mantissa := match number.digits with
      | first :: second :: rest => first :: '.' :: second :: rest
      | digits => digits
    let size := Nat.toDigits 10 exponent.natAbs
    mantissa ++ 'e' :: (if exponent < 0 then '-' else '+') ::
      (List.replicate (2 - size.length) '0' ++ size)

def writeWith (whole : List Char) (x : Double) : List Char :=
  match x.view with
  | .nan => ['n', 'a', 'n']
  | .infinite negative => (if negative then ['-'] else []) ++ ['i', 'n', 'f']
  | .finite negative mantissa exponent =>
      (if negative then ['-'] else []) ++ (x.shortest mantissa exponent).write whole

def toText (x : Double) : String := String.ofList (x.writeWith ['.', '0'])

def toHexText (x : Double) : String :=
  match x.view with
  | .nan => "nan"
  | .infinite negative => if negative then "-inf" else "inf"
  | .finite negative mantissa exponent =>
      let sign := if negative then ['-'] else []
      if mantissa = 0 then String.ofList (sign ++ "0x0.0p+0".toList)
      else
        let places := (Nat.toDigits 16 (x.fraction + Nat.pow 2 52)).drop 1
        let leading := if x.biasedExponent = 0 then '0' else '1'
        let power := exponent + 52
        String.ofList (sign ++ '0' :: 'x' :: leading :: '.' :: places ++
          'p' :: (if power < 0 then '-' else '+') :: Nat.toDigits 10 power.natAbs)

end Double

end Mustache.Number

namespace Mustache

def digitLimit : Nat := 4300

def writeInt (n : Int) : Except Fault String :=
  let digits := Nat.toDigits 10 n.natAbs
  if digits.length > digitLimit then .error (.value .numeralTooLong)
  else .ok (String.ofList (if n < 0 then '-' :: digits else digits))

end Mustache
