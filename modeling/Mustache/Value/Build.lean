import Mustache.Document
import Mustache.Value.Order

/-!
Making values: from documents, and from entries whose keys may be any values. Keys that are equal
are one key, which stays in the place and spelling of its first occurrence.
-/

namespace Mustache

set_option autoImplicit false

/-- A fraction in lowest terms; its sign is that of the numerator. -/
def Value.ofRatio (numerator denominator : Int) : Except Fault Value :=
  if denominator = 0 then .error (.value .zeroDenominator)
  else
    let divisor := Int.gcd numerator denominator
    .ok (.fraction (denominator.sign * numerator / divisor) (denominator.natAbs / divisor))

/-- The numbers from a start to a stop in steps, which must lead somewhere. -/
def Value.ofSteps (start stop step : Int) : Except Fault Value :=
  if step = 0 then .error (.value .zeroStep) else .ok (.range start stop step)

mutual
/-- Whether a value can be a key. What can change cannot, nor can what is equal by its entries. -/
def Value.isKey : Value → Bool
  | .buffer _ _ | .set _ | .list _ _ | .mapping _ _ => false
  | .decimal (.nan _ signalling _) _ => !signalling
  | .tuple items => areKeys items
  | _ => true
  termination_by structural value => value
def areKeys : List Value → Bool
  | [] => true
  | item :: rest => item.isKey && areKeys rest
  termination_by structural items => items
end

/-- Texts are compared directly. -/
def isSameKey (store : Store) : Value → Value → Except Fault Bool
  | .text key, .text other => .ok (key == other)
  | key, other => key.same store other

def putEntry (store : Store) (key value : Value) :
    List (Value × Value) → Except Fault (List (Value × Value))
  | [] => .ok [(key, value)]
  | entry :: rest => do
      if ← isSameKey store entry.1 key then return (entry.1, value) :: rest
      else return entry :: (← putEntry store key value rest)

def buildEntries (store : Store) (entries : List (Value × Value)) :
    Except Fault (List (Value × Value)) :=
  entries.foldlM (fun built entry =>
    if entry.1.isKey then putEntry store entry.1 entry.2 built
    else .error (.value .wrongType)) []

mutual
def Document.toValue : Document → Access Value
  | .null => pure .null
  | .bool value => pure (.bool value)
  | .int value => pure (.int value)
  | .float value => pure (.float value Store.documentCell)
  | .text content => pure (.text content)
  | .date year month day => pure (.date year month day)
  | .list items => do newList (← toValues items)
  | .mapping entries => do
      let entries ← toEntries entries
      let built ← buildEntries (← get) entries
      return .mapping .dictionary built
  termination_by structural document => document
def toValues : List Document → Access (List Value)
  | [] => pure []
  | item :: rest => do
      let value ← item.toValue
      return value :: (← toValues rest)
  termination_by structural items => items
def toEntries : List (Document × Document) → Access (List (Value × Value))
  | [] => pure []
  | (key, value) :: rest => do
      let key ← key.toValue
      let value ← value.toValue
      return (key, value) :: (← toEntries rest)
  termination_by structural entries => entries
end

end Mustache
