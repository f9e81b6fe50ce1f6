import Mustache.Value.Order

/-!
The length of values that can be measured without iterating over them, and whether a value counts as
true where a yes or no is asked for: null, zeros and what is empty do not, everything else does.
Objects of host code may claim any length, and not every length is one; an object with a length that
is none has no truth.
-/

namespace Mustache

set_option autoImplicit false

def lengthLimit : Nat := Nat.pow 2 63 - 1

def checkLength (length : Int) : Except Fault Nat :=
  if length < 0 then .error (.value .negativeLength)
  else if length > lengthLimit then .error (.value .lengthOutOfRange)
  else .ok length.toNat

def Value.length? (store : Store) : Value → Option Int
  | .range start stop step => some (rangeLength start stop step)
  | .tuple items => some items.length
  | .set items => some items.length
  | .list _ cell => some (store.order cell).size
  | .object host => host.length
  | _ => none

open Number

def Value.isTrue (store : Store) : Value → Except Fault Bool
  | .missing | .null => .ok false
  | .bool value => .ok value
  | .int value => .ok (value != 0)
  | .float value _ => .ok !value.isZero
  | .decimal value _ => .ok !value.isZero
  | .fraction numerator _ => .ok (numerator != 0)
  | .complex real imaginary _ => .ok !(real.isZero && imaginary.isZero)
  | .text content => .ok !content.isEmpty
  | .octets content => .ok !content.isEmpty
  | .buffer _ cell | .list _ cell => .ok !(store.order cell).isEmpty
  | .range start stop step => .ok (rangeLength start stop step != 0)
  | .tuple items | .set items => .ok !items.isEmpty
  | .mapping _ entries => .ok !entries.isEmpty
  | .object host =>
      match host.length with
      | some length => do return (← checkLength length) != 0
      | none => .ok true
  | .date _ _ _ | .stream _ _ _ | .array _ _ _ | .routine _ => .ok true

def Value.truth (value : Value) : Access Bool := do
  let truth ← (value.isTrue (← get) : Except Fault Bool)
  return truth

end Mustache
