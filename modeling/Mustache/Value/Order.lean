import Mustache.Number.Reading
import Mustache.Value.Store

/-!
Equality and order of values. Numbers of all types compare by the number they stand for; octets
compare with buffers; sequences of one type compare item by item. Values of other types are equal
only if they are one and the same, and have no order.
-/

namespace Mustache

set_option autoImplicit false

open Number

/-- A number as an exact quotient times a power of ten, if it is finite. -/
inductive Quantity where
  | exact (numerator : Int) (denominator : Nat) (shift : Int)
  | infinite (negative : Bool)
  | nan
  deriving DecidableEq, Repr

namespace Quantity

def signed (negative : Bool) (n : Nat) : Int := if negative then -(n : Int) else n

def ofDouble (x : Double) : Quantity :=
  match x.view with
  | .nan => .nan
  | .infinite negative => .infinite negative
  | .finite negative mantissa exponent =>
      let (numerator, denominator) := Double.powerRatio mantissa exponent
      .exact (signed negative numerator) denominator 0

def ofExact : Exact → Quantity
  | .nan _ _ _ => .nan
  | .infinite negative => .infinite negative
  | .finite value => .exact (signed value.negative value.digits) 1 value.exponent

def isNan (quantity : Quantity) : Bool := quantity == .nan

def isZero : Quantity → Bool
  | .exact numerator _ _ => numerator == 0
  | _ => false

/-- Compares `a * 10 ^ i` with `b * 10 ^ j`. Where their first digits stand in different places the
powers are not needed. -/
def compareShifted (a : Nat) (i : Int) (b : Nat) (j : Int) : Ordering :=
  if a = 0 || b = 0 || i = j then compare a b
  else
    let place : Int := Double.decimalLength a + i
    let place' : Int := Double.decimalLength b + j
    if place ≠ place' then compare place place'
    else compare (a * Nat.pow 10 (i - j).toNat) (b * Nat.pow 10 (j - i).toNat)

def compareExact (numerator : Int) (denominator : Nat) (shift : Int) (numerator' : Int)
    (denominator' : Nat) (shift' : Int) : Ordering :=
  match compare numerator.sign numerator'.sign with
  | .eq =>
      let sizes := compareShifted (numerator.natAbs * denominator') shift
        (numerator'.natAbs * denominator) shift'
      if numerator < 0 then sizes.swap else sizes
  | order => order

def same : Quantity → Quantity → Bool
  | .exact a b i, .exact c d j => compareExact a b i c d j == .eq
  | .infinite negative, .infinite other => negative == other
  | _, _ => false

def less : Quantity → Quantity → Bool
  | .exact a b i, .exact c d j => compareExact a b i c d j == .lt
  | .infinite negative, .infinite other => negative && !other
  | .infinite negative, .exact _ _ _ => negative
  | .exact _ _ _, .infinite negative => !negative
  | _, _ => false

end Quantity

namespace Value

def quantity? : Value → Option Quantity
  | .bool value => some (.exact (if value then 1 else 0) 1 0)
  | .int value => some (.exact value 1 0)
  | .float value _ => some (.ofDouble value)
  | .decimal value _ => some (.ofExact value)
  | .fraction numerator denominator => some (.exact numerator denominator 0)
  | _ => none

/-- Every number as its real and imaginary part. -/
def complexQuantity? : Value → Option (Quantity × Quantity)
  | .complex real imaginary _ => some (.ofDouble real, .ofDouble imaginary)
  | value => value.quantity?.map fun quantity => (quantity, .exact 0 1 0)

def isDecimal : Value → Bool
  | .decimal _ _ => true
  | _ => false

def isSignalling : Value → Bool
  | .decimal (.nan _ signalling _) _ => signalling
  | _ => false

def isIdentical : Value → Value → Bool
  | .float x cell, .float y cell' => x == y && cell == cell'
  | .decimal x cell, .decimal y cell' => x == y && cell == cell'
  | .complex x y cell, .complex x' y' cell' => x == x' && y == y' && cell == cell'
  | _, _ => false

def octets? (store : Store) : Value → Option (List UInt8)
  | .octets content => some content
  | .buffer content cell => some (store.held content cell)
  | _ => none

/-- The numbers of a range, by how many there are and where they begin. -/
def rangeLength (start stop step : Int) : Nat :=
  if step > 0 then (Int.fdiv (stop - start + step - 1) step).toNat
  else if step < 0 then (Int.fdiv (start - stop - step - 1) (-step)).toNat
  else 0

def sameRange (start step : Int) (length : Nat) (start' step' : Int) (length' : Nat) : Bool :=
  length == length' && (length == 0 || (start == start' && (length == 1 || step == step')))

/-- Numbers are equal if both of their parts are. A signalling one cannot be compared with numbers
that have no imaginary part. -/
def sameNumber? (value other : Value) : Option (Except Fault Bool) :=
  match value.complexQuantity?, other.complexQuantity? with
  | some (real, imaginary), some (real', imaginary') =>
      let refused := (value.isSignalling || other.isSignalling) && imaginary.isZero &&
        imaginary'.isZero
      some (if refused then .error (.value .notComparable)
        else .ok (real.same real' && imaginary.same imaginary'))
  | _, _ => none

def sameSimple (store : Store) (value other : Value) : Bool :=
  match value.octets? store, other.octets? store with
  | some content, some content' => content == content'
  | _, _ =>
      match value, other with
      | .missing, .missing | .null, .null => true
      | .text content, .text content' => content == content'
      | .date year month day, .date year' month' day' =>
          year == year' && month == month' && day == day'
      | .range start stop step, .range start' stop' step' =>
          sameRange start step (rangeLength start stop step)
            start' step' (rangeLength start' stop' step')
      | .stream _ _ cell, .stream _ _ cell' => cell == cell'
      | .array _ _ cell, .array _ _ cell' => cell == cell'
      | .routine call, .routine call' => call.cell == call'.cell
      | .object host, .object host' => host.cell == host'.cell
      | _, _ => false

abbrev Test := Value → Except Fault Bool

def passEach : List Test → List Value → Except Fault Bool
  | test :: tests, item :: items => do
      if ← test item then passEach tests items else return false
  | tests, items => .ok (tests.isEmpty && items.isEmpty)

def passAny (test : Test) : List Value → Except Fault Bool
  | [] => .ok false
  | item :: items => do
      if ← test item then return true else passAny test items

def passSubset (others : List Value) : List Test → Except Fault Bool
  | [] => .ok true
  | test :: tests => do
      if ← passAny test others then passSubset others tests else return false

def passEntry (key value : Test) : List (Value × Value) → Except Fault Bool
  | [] => .ok false
  | entry :: entries => do
      if ← key entry.1 then value entry.2 else passEntry key value entries

def passEntries (others : List (Value × Value)) : List (Test × Test) → Except Fault Bool
  | [] => .ok true
  | (key, value) :: tests => do
      if ← passEntry key value others then passEntries others tests else return false

mutual
/-- The test for being equal to a value. Mappings of all forms are equal if their entries are. -/
def same (store : Store) : Value → Test
  | .tuple items =>
      let tests := sameEach store items
      fun other => match other with
        | .tuple others => passEach tests others
        | _ => .ok false
  | .list items cell =>
      let tests := store.held (sameEach store items) cell
      fun other => match other with
        | .list others cell' =>
            let others := store.held others cell'
            if tests.length = others.length then passEach tests others else .ok false
        | _ => .ok false
  | .set items =>
      let tests := sameEach store items
      fun other => match other with
        | .set others =>
            if tests.length = others.length then passSubset others tests else .ok false
        | _ => .ok false
  | .mapping _ entries =>
      let tests := sameEntries store entries
      fun other => match other with
        | .mapping _ others =>
            if tests.length = others.length then passEntries others tests else .ok false
        | _ => .ok false
  | value => fun other =>
      if value.isIdentical other then .ok true
      else (value.sameNumber? other).getD (.ok (value.sameSimple store other))
  termination_by structural value => value
def sameEach (store : Store) : List Value → List Test
  | [] => []
  | item :: rest => item.same store :: sameEach store rest
  termination_by structural items => items
def sameEntries (store : Store) : List (Value × Value) → List (Test × Test)
  | [] => []
  | (key, value) :: rest => (key.same store, value.same store) :: sameEntries store rest
  termination_by structural entries => entries
end

def lessOctets : List UInt8 → List UInt8 → Bool
  | _, [] => false
  | [], _ :: _ => true
  | a :: rest, b :: rest' => a < b || (a == b && lessOctets rest rest')

def lessChars : List Char → List Char → Bool
  | _, [] => false
  | [], _ :: _ => true
  | a :: rest, b :: rest' => a < b || (a == b && lessChars rest rest')

def lessSimple (store : Store) (value other : Value) : Except Fault Bool :=
  match value.quantity?, other.quantity? with
  | some quantity, some quantity' =>
      if (value.isDecimal || other.isDecimal) && (quantity.isNan || quantity'.isNan) then
        .error (.value .notComparable)
      else .ok (quantity.less quantity')
  | _, _ =>
      match value.octets? store, other.octets? store with
      | some content, some content' => .ok (lessOctets content content')
      | _, _ =>
          match value, other with
          | .text content, .text content' => .ok (lessChars content.toList content'.toList)
          | .date year month day, .date year' month' day' =>
              .ok (year < year' || (year == year' &&
                (month < month' || (month == month' && day < day'))))
          | _, _ => .error (.value .notOrdered)

/-- How a value compares with others: its test of equality and its order before them. -/
structure Comparison where
  same : Test
  less : Test

/-- The first items that differ decide; if there are none, the shorter sequence comes first. -/
def lessSequence : List Comparison → List Value → Except Fault Bool
  | _, [] => .ok false
  | [], _ :: _ => .ok true
  | comparison :: rest, item :: items => do
      if ← comparison.same item then lessSequence rest items else comparison.less item

mutual
/-- The test for coming after a value. -/
def less (store : Store) : Value → Test
  | .tuple items =>
      let comparisons := compareEach store items
      fun other => match other with
        | .tuple others => lessSequence comparisons others
        | _ => .error (.value .notOrdered)
  | .list items cell =>
      let comparisons := store.held (compareEach store items) cell
      fun other => match other with
        | .list others cell' => lessSequence comparisons (store.held others cell')
        | _ => .error (.value .notOrdered)
  | .set items =>
      let tests := sameEach store items
      fun other => match other with
        | .set others =>
            if tests.length < others.length then passSubset others tests else .ok false
        | _ => .error (.value .notOrdered)
  | value => fun other => lessSimple store value other
  termination_by structural value => value
def compareEach (store : Store) : List Value → List Comparison
  | [] => []
  | item :: rest => ⟨item.same store, item.less store⟩ :: compareEach store rest
  termination_by structural items => items
end

end Value

end Mustache
