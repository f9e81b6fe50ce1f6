import Mustache.Number.Reading

/-!
Decimal numbers that keep the digits they were written with: trailing zeros stay, and so does the
sign of a zero.
-/

namespace Mustache.Number

set_option autoImplicit false

inductive Exact where
  | finite (value : Decimal)
  | infinite (negative : Bool)
  /-- Not a number: whether it signals, and the digits written behind it. -/
  | nan (negative signalling : Bool) (payload : List Char)
  deriving DecidableEq, Repr

namespace Exact

def ofWord? (negative : Bool) (rest : List Char) : Option Exact :=
  let word := lowerAscii rest
  let name := String.ofList word
  if name = "inf" || name = "infinity" then some (.infinite negative)
  else
    let (signalling, rest) := match word with
      | 's' :: rest => (true, rest)
      | rest => (false, rest)
    match rest with
    | 'n' :: 'a' :: 'n' :: payload =>
        if payload.all isAsciiDigit then
          some (.nan negative signalling (payload.dropWhile (· = '0')))
        else none
    | _ => none

def largestPower : Int := 999999999999999999

def smallestPower : Int := -1999999999999999997

def fits (value : Decimal) : Bool :=
  smallestPower ≤ value.exponent &&
    Double.decimalLength value.digits + value.exponent - 1 ≤ largestPower

/-- Reads a decimal from text, blanks around it and underscores in it allowed. -/
def read? (text : String) : Option Exact :=
  let trimmed := plainDigits ((Text.strip text.toList).filter (· ≠ '_'))
  let (negative, rest) := takeSign trimmed
  match readUnsigned? negative rest with
  | some value => if fits value then some (.finite value) else none
  | none => ofWord? negative rest

def isZero : Exact → Bool
  | .finite value => value.digits = 0
  | _ => false

/-- Digits at or above the sixth place behind the point are written positionally, unless zeros
would have to be added in front of the point; all else is written with a power of ten and the point
in a place that depends on where the first digit is. -/
def writeWith (place : Int → Int) (value : Decimal) : List Char :=
  let digits := Nat.toDigits 10 value.digits
  let count : Int := digits.length
  let leading := count + value.exponent
  let point : Int := if value.exponent ≤ 0 && -6 < leading then leading else place leading
  let body :=
    if point ≤ 0 then '0' :: '.' :: List.replicate (-point).toNat '0' ++ digits
    else if count ≤ point then digits ++ List.replicate (point - count).toNat '0'
    else digits.take point.toNat ++ '.' :: digits.drop point.toNat
  let power := leading - point
  let exponent :=
    if power = 0 then []
    else 'E' :: (if power < 0 then '-' else '+') :: Nat.toDigits 10 power.natAbs
  (if value.negative then ['-'] else []) ++ body ++ exponent

def toTextWith (place : Decimal → Int → Int) : Exact → String
  | .finite value => String.ofList (writeWith (place value) value)
  | .infinite negative => if negative then "-Infinity" else "Infinity"
  | .nan negative signalling payload =>
      String.ofList ((if negative then ['-'] else []) ++ (if signalling then ['s'] else []) ++
        ['N', 'a', 'N'] ++ payload)

/-- With one digit in front of the point. -/
def toText : Exact → String := toTextWith fun _ _ => 1

/-- With a power of ten that is one of a thousand. -/
def toEngineeringText : Exact → String :=
  toTextWith fun value leading =>
    if value.digits = 0 then (leading + 1) % 3 - 1 else (leading - 1) % 3 + 1

end Exact

end Mustache.Number
