/-!
Double precision numbers as their sixty-four bits. A finite one is a whole number of at most
fifty-three binary digits times a power of two, and that is how every operation here sees it:
reading a decimal, exact ratios and comparisons all happen on natural numbers.
-/

namespace Mustache.Number

set_option autoImplicit false

structure Double where
  bits : UInt64
  deriving DecidableEq, Repr, Inhabited

namespace Double

/-- The number that the bits stand for: a finite one is `mantissa * 2 ^ exponent`. -/
inductive View where
  | nan
  | infinite (negative : Bool)
  | finite (negative : Bool) (mantissa : Nat) (exponent : Int)
  deriving DecidableEq, Repr

def negative (x : Double) : Bool := x.bits.toNat / Nat.pow 2 63 == 1

def fraction (x : Double) : Nat := x.bits.toNat % Nat.pow 2 52

def biasedExponent (x : Double) : Nat := x.bits.toNat / Nat.pow 2 52 % 2048

def view (x : Double) : View :=
  if x.biasedExponent = 2047 then
    if x.fraction = 0 then .infinite x.negative else .nan
  else if x.biasedExponent = 0 then .finite x.negative x.fraction (-1074)
  else .finite x.negative (x.fraction + Nat.pow 2 52) (x.biasedExponent - 1075 : Int)

def ofParts (negative : Bool) (biased fraction : Nat) : Double :=
  ⟨UInt64.ofNat ((if negative then Nat.pow 2 63 else 0) + biased * Nat.pow 2 52 + fraction)⟩

def zero (negative : Bool) : Double := ofParts negative 0 0

def infinity (negative : Bool) : Double := ofParts negative 2047 0

def nan : Double := ofParts false 2047 (Nat.pow 2 51)

def negate (x : Double) : Double := ⟨x.bits ^^^ (UInt64.ofNat (Nat.pow 2 63))⟩

/-- The numerator and denominator of `mantissa * 2 ^ exponent`, not reduced. -/
def powerRatio (mantissa : Nat) (exponent : Int) : Nat × Nat :=
  if 0 ≤ exponent then (mantissa * Nat.pow 2 exponent.toNat, 1)
  else (mantissa, Nat.pow 2 (-exponent).toNat)

/-- The quotient of two numbers rounded to the nearest whole one, a half to the even neighbour. -/
def roundHalfEven (numerator denominator : Nat) : Nat :=
  let quotient := numerator / denominator
  let rest := numerator % denominator
  if 2 * rest < denominator then quotient
  else if 2 * rest > denominator then quotient + 1
  else if quotient % 2 = 0 then quotient
  else quotient + 1

def scaled (numerator denominator : Nat) (exponent : Int) : Nat :=
  if 0 ≤ exponent then roundHalfEven numerator (denominator * Nat.pow 2 exponent.toNat)
  else roundHalfEven (numerator * Nat.pow 2 (-exponent).toNat) denominator

/-- The exponent whose unit leaves fifty-three binary digits before the point, but never below the
smallest one there is. -/
def unitExponent (numerator denominator : Nat) : Int :=
  let estimate : Int := (numerator.log2 : Int) - (denominator.log2 : Int) - 52
  let reaches : Bool :=
    if 0 ≤ estimate then denominator * Nat.pow 2 estimate.toNat * Nat.pow 2 52 ≤ numerator
    else denominator * Nat.pow 2 52 ≤ numerator * Nat.pow 2 (-estimate).toNat
  max (-1074) (if reaches then estimate else estimate - 1)

def ofRatio (negative : Bool) (numerator denominator : Nat) : Double :=
  if numerator = 0 then zero negative
  else
    let exponent := unitExponent numerator denominator
    let mantissa := scaled numerator denominator exponent
    let (mantissa, exponent) :=
      if mantissa = Nat.pow 2 53 then (Nat.pow 2 52, exponent + 1) else (mantissa, exponent)
    if exponent > 971 then infinity negative
    else if mantissa < Nat.pow 2 52 then ofParts negative 0 mantissa
    else ofParts negative (exponent + 1075).toNat (mantissa - Nat.pow 2 52)

def decimalLength (n : Nat) : Nat := (Nat.toDigits 10 n).length

/-- The double nearest to `digits * 10 ^ exponent`. Far outside of the range the answer is known
without the power. -/
def ofDecimal (negative : Bool) (digits : Nat) (exponent : Int) : Double :=
  if digits = 0 then zero negative
  else
    let size := (decimalLength digits : Int) + exponent
    if size > 310 then infinity negative
    else if size < -330 then zero negative
    else if 0 ≤ exponent then ofRatio negative (digits * Nat.pow 10 exponent.toNat) 1
    else ofRatio negative digits (Nat.pow 10 (-exponent).toNat)

def plus (x y : Double) : Double :=
  match x.view, y.view with
  | .finite _ mantissa exponent, .finite _ mantissa' exponent' =>
      let (numerator, denominator) := powerRatio mantissa exponent
      let (numerator', denominator') := powerRatio mantissa' exponent'
      ofRatio false (numerator * denominator' + numerator' * denominator)
        (denominator * denominator')
  | _, _ => infinity false

def times (x : Double) (factor : Nat) : Double :=
  match x.view with
  | .finite _ mantissa exponent =>
      let (numerator, denominator) := powerRatio mantissa exponent
      ofRatio false (numerator * factor) denominator
  | _ => infinity false

def ratio? (x : Double) : Option (Int × Nat) :=
  match x.view with
  | .finite negative mantissa exponent =>
      let (numerator, denominator) := powerRatio mantissa exponent
      let divisor := numerator.gcd denominator
      let numerator : Int := (numerator / divisor : Nat)
      some (if negative then -numerator else numerator, denominator / divisor)
  | _ => none

def isInteger (x : Double) : Bool :=
  match x.ratio? with
  | some (_, denominator) => denominator == 1
  | none => false

def isZero (x : Double) : Bool :=
  match x.view with
  | .finite _ mantissa _ => mantissa == 0
  | _ => false

end Double

end Mustache.Number
