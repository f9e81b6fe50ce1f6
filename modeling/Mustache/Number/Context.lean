import Mustache.Fault
import Mustache.Number.Exact

/-!
Arithmetic of decimals in a context: results have twenty-eight digits, halves are rounded to the
even neighbour, and the first digit of a result stands for a power of ten within a million. A result
that is too large, a quotient by zero and an operation that is not defined are faults. Roots and
logarithms are computed with so many more digits that rounding them is rounding the true result.
-/

namespace Mustache.Number

set_option autoImplicit false

namespace Exact

open Double (decimalLength roundHalfEven)

def precision : Nat := 28

def highest : Int := 999999

def lowest : Int := -1000026

def leadingPower (value : Decimal) : Int := decimalLength value.digits + value.exponent - 1

def surplus (value : Decimal) : Nat :=
  max (decimalLength value.digits - precision) (lowest - value.exponent).toNat

/-- Digits that are longer than the precision by one, all but the first of them being zeros. -/
def carry (value : Decimal) : Decimal :=
  if value.digits = Nat.pow 10 precision then
    { value with digits := Nat.pow 10 (precision - 1), exponent := value.exponent + 1 }
  else value

/-- Rounds to the precision, by a rule for what is left of the quotient by a power of ten. -/
def roundBy (rule : Nat → Nat → Nat) (value : Decimal) : Decimal :=
  let count := surplus value
  if count = 0 then value
  else
    let places := min count (decimalLength value.digits + 1)
    carry { value with
      digits := rule value.digits (Nat.pow 10 places)
      exponent := value.exponent + count }

def roundUp (numerator denominator : Nat) : Nat := (numerator + denominator - 1) / denominator

/-- A result, rounded. A zero keeps its exponent as far as there is room for it. -/
def finish (value : Decimal) : Except ContextFault Exact :=
  let value := roundBy roundHalfEven value
  if value.digits = 0 then
    .ok (.finite { value with exponent := max lowest (min highest value.exponent) })
  else if leadingPower value > highest then .error .overflow
  else .ok (.finite value)

def ofInt (n : Int) : Exact := .finite ⟨n < 0, n.natAbs, 0⟩

/-- Of what is not a number only the last digits behind it stay. -/
def quiet (negative signalling : Bool) (payload : List Char) : Except ContextFault Exact :=
  if signalling then .error .undefined
  else
    let kept := payload.drop (payload.length - precision)
    .ok (.nan negative false (kept.dropWhile (· = '0')))

def onNumber (infinite : Bool → Except ContextFault Exact)
    (finite : Decimal → Except ContextFault Exact) : Exact → Except ContextFault Exact
  | .finite value => finite value
  | .infinite negative => infinite negative
  | .nan negative signalling payload => quiet negative signalling payload

def isFinite : Exact → Bool
  | .finite _ => true
  | _ => false

def isInfinite : Exact → Bool
  | .infinite _ => true
  | _ => false

def isNan : Exact → Bool
  | .nan _ _ _ => true
  | _ => false

def isSignalling : Exact → Bool
  | .nan _ signalling _ => signalling
  | _ => false

def isNegative : Exact → Bool
  | .finite value => value.negative
  | .infinite negative | .nan negative _ _ => negative

def withSign (negative : Bool) : Exact → Exact
  | .finite value => .finite { value with negative := negative }
  | .infinite _ => .infinite negative
  | .nan _ signalling payload => .nan negative signalling payload

def lowestFull : Int := -highest

def isNormal : Exact → Bool
  | .finite value => value.digits != 0 && lowestFull ≤ leadingPower value
  | _ => false

def isSubnormal : Exact → Bool
  | .finite value => value.digits != 0 && leadingPower value < lowestFull
  | _ => false

def className (value : Exact) : String :=
  let signed (name : String) := (if value.isNegative then "-" else "+") ++ name
  match value with
  | .nan _ signalling _ => if signalling then "sNaN" else "NaN"
  | .infinite _ => signed "Infinity"
  | .finite _ =>
      if value.isZero then signed "Zero"
      else if value.isSubnormal then signed "Subnormal"
      else signed "Normal"

def adjusted : Exact → Int
  | .finite value => leadingPower value
  | _ => 0

def logb : Exact → Except ContextFault Exact :=
  onNumber (fun _ => .ok (.infinite false)) fun value =>
    if value.digits = 0 then .error .divisionByZero else finish ⟨leadingPower value < 0,
      (leadingPower value).natAbs, 0⟩

def trimZeros : (fuel : Nat) → Decimal → Decimal
  | 0, value => value
  | fuel + 1, value =>
      if value.digits % 10 = 0 && value.exponent < highest then
        trimZeros fuel { value with digits := value.digits / 10, exponent := value.exponent + 1 }
      else value

def normalize : Exact → Except ContextFault Exact :=
  onNumber (fun negative => .ok (.infinite negative)) fun value => do
    match ← finish value with
    | .finite rounded =>
        return .finite (if rounded.digits = 0 then { rounded with exponent := 0 }
          else trimZeros (precision + 1) rounded)
    | other => return other

def toIntegral : Exact → Except ContextFault Exact :=
  onNumber (fun negative => .ok (.infinite negative)) fun value =>
    if 0 ≤ value.exponent then .ok (.finite value)
    else
      let places := min (-value.exponent).toNat (decimalLength value.digits + 1)
      .ok (.finite ⟨value.negative, roundHalfEven value.digits (Nat.pow 10 places), 0⟩)

/-- A number of nothing but ones and zeros, with each turned into the other. -/
def invert : Exact → Except ContextFault Exact
  | .finite ⟨false, digits, 0⟩ =>
      let written := Nat.toDigits 10 digits
      if written.length ≤ precision && written.all fun c => c = '0' || c = '1' then
        let ones := digitsValue (List.replicate precision '1')
        .ok (.finite ⟨false, ones - digits, 0⟩)
      else .error .undefined
  | _ => .error .undefined

section Neighbours

def largest (negative : Bool) : Exact :=
  .finite ⟨negative, Nat.pow 10 precision - 1, highest - precision + 1⟩

/-- The digits filled up with zeros as far as there is room for them. -/
def fill (value : Decimal) : Decimal :=
  let count := min (precision - decimalLength value.digits) (value.exponent - lowest).toNat
  { value with digits := value.digits * Nat.pow 10 count, exponent := value.exponent - count }

def inward (value : Decimal) : Exact :=
  if leadingPower value > highest then largest value.negative
  else
    let cut := roundBy (fun numerator denominator => numerator / denominator) value
    if roundBy roundUp value ≠ cut then .finite cut
    else
      let full := fill cut
      if full.digits = Nat.pow 10 (precision - 1) && lowest < full.exponent then
        .finite { full with digits := Nat.pow 10 precision - 1, exponent := full.exponent - 1 }
      else .finite { full with digits := full.digits - 1 }

def outward (value : Decimal) : Exact :=
  let cut := roundBy roundUp value
  let next :=
    if roundBy (fun numerator denominator => numerator / denominator) value ≠ cut then cut
    else
      let full := fill cut
      carry { full with digits := full.digits + 1 }
  if leadingPower next > highest then .infinite value.negative else .finite next

def next (below : Bool) : Exact → Except ContextFault Exact :=
  onNumber
    (fun negative => .ok (if negative = below then .infinite negative else largest negative))
    fun value =>
      if value.digits = 0 then .ok (.finite ⟨below, 1, lowest⟩)
      else .ok (if value.negative = below then outward value else inward value)

end Neighbours

section Functions

/-- The whole part of a square root, digit by binary digit. -/
def wholeRoot (n : Nat) : (places : Nat) → (root : Nat) → Nat
  | 0, root => root
  | places + 1, root =>
      let next := root + Nat.pow 2 places
      wholeRoot n places (if next * next ≤ n then next else root)

def sqrt : Exact → Except ContextFault Exact :=
  onNumber (fun negative => if negative then .error .undefined else .ok (.infinite false))
    fun value =>
      let odd := value.exponent % 2 = 1
      let half := Int.fdiv value.exponent 2
      if value.digits = 0 then finish { value with exponent := half }
      else if value.negative then .error .undefined
      else
        let digits := if odd then value.digits * 10 else value.digits
        let places := precision + 1 - (decimalLength digits + 1) / 2
        let beyond := (decimalLength digits + 1) / 2 - (precision + 1)
        let scaled := digits * Nat.pow 100 places / Nat.pow 100 beyond
        let root := wholeRoot scaled (scaled.log2 / 2 + 1) 0
        if root * root * Nat.pow 100 beyond = digits * Nat.pow 100 places then
          finish ⟨false, root * Nat.pow 10 beyond / Nat.pow 10 places, half⟩
        else
          -- One more digit decides; it must not look like the half that it is not.
          let root := if root % 5 = 0 then root + 1 else root
          finish ⟨false, root, half - places + beyond⟩

/-- The sum of the terms that follow, each made from the one before it. -/
def series (step : Nat → Nat → Nat) : (fuel index : Nat) → (term : Nat) → Nat
  | 0, _, term => term
  | fuel + 1, index, term =>
      if term = 0 then 0 else term + series step fuel (index + 1) (step index term)

/-- The exponential of a fraction that is small, both in units of a scale. -/
def exponential (scale x : Nat) : Nat :=
  series (fun index term => term * x / (scale * (index + 1))) (scale.log2 + 8) 0 scale

/-- The logarithm of a number from one to ten: each step makes the rest the third power of what it
was. -/
def logarithm (scale x : Nat) : (steps : Nat) → (guess : Nat) → Nat
  | 0, guess => guess
  | steps + 1, guess =>
      let power := exponential scale guess
      let next := (guess : Int) + Int.fdiv (2 * scale * ((x : Int) - power)) (x + power)
      logarithm scale x steps next.toNat

def logarithmOfTen (scale : Nat) : Nat := logarithm scale (10 * scale) 10 0

def workingDigits (value : Decimal) : Nat := 80 + 2 * decimalLength value.digits

def naturalLogarithm (scale : Nat) (value : Decimal) : Int :=
  let mantissa := value.digits * scale / Nat.pow 10 (decimalLength value.digits - 1)
  logarithm scale mantissa 10 0 + leadingPower value * logarithmOfTen scale

def isPowerOfTen (value : Decimal) : Bool :=
  value.digits = Nat.pow 10 (decimalLength value.digits - 1)

def logarithmBy (exact : Decimal → Option Int) (compute : Nat → Decimal → Int) :
    Exact → Except ContextFault Exact :=
  onNumber (fun negative => if negative then .error .undefined else .ok (.infinite false))
    fun value =>
      if value.digits = 0 then .ok (.infinite true)
      else if value.negative then .error .undefined
      else
        match exact value with
        | some result => finish ⟨result < 0, result.natAbs, 0⟩
        | none =>
            let places := workingDigits value
            let result := compute (Nat.pow 10 places) value
            finish ⟨result < 0, result.natAbs, -places⟩

def ln : Exact → Except ContextFault Exact :=
  logarithmBy
    (fun value => if isPowerOfTen value && leadingPower value = 0 then some 0 else none)
    naturalLogarithm

def log10 : Exact → Except ContextFault Exact :=
  logarithmBy (fun value => if isPowerOfTen value then some (leadingPower value) else none)
    fun scale value => Int.fdiv (naturalLogarithm scale value * scale) (logarithmOfTen scale)

def exp : Exact → Except ContextFault Exact :=
  onNumber (fun negative => .ok (if negative then ofInt 0 else .infinite false)) fun value =>
    let places := 80
    let scale := Nat.pow 10 places
    if value.digits = 0 then .ok (ofInt 1)
    else if leadingPower value > 7 then
      if value.negative then finish ⟨false, 1, 2 * lowest⟩ else .error .overflow
    else if leadingPower value < -60 then
      finish ⟨false, if value.negative then scale - 1 else scale + 1, -places⟩
    else
      let shift := value.exponent + places
      let size := if 0 ≤ shift then value.digits * Nat.pow 10 shift.toNat
        else value.digits / Nat.pow 10 (-shift).toNat
      let signed : Int := if value.negative then -(size : Int) else size
      let power := Int.fdiv signed (logarithmOfTen scale)
      let rest := signed - power * logarithmOfTen scale
      finish ⟨false, exponential scale rest.toNat, power - places⟩

end Functions

end Exact

end Mustache.Number
