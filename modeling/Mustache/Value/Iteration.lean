import Mustache.Value.Registry
import Mustache.Value.Truth

/-!
Iterating over values. A registered value is iterated over as its adapter says, any other one as it
is. Elements come with their position. To know whether an element is the last one the element after
it is read first, so a sequence that fails behind an element never delivers that element.
-/

namespace Mustache

set_option autoImplicit false

def Value.elements (registry : Registry) (value : Value) : Access Cursor :=
  match registry.adapterFor? value with
  | some adapter => adapter value
  | none => value.cursor

/-- Whether a sequence has no elements. One that cannot be measured loses an element to the
question. -/
def Value.isEmptySequence (registry : Registry) (value : Value) : Access Bool := do
  let store ← get
  let length := if (registry.adapterFor? value).isNone then value.length? store else none
  match length with
  | some length => do return (← checkLength length) == 0
  | none =>
      let cursor ← value.elements registry
      return (← cursor.next).isNone

/-- Whether an inverted section is rendered for a value. -/
def Value.isFalsy (registry : Registry) (value : Value) : Access Bool :=
  match value.kind registry, value with
  | .missing, _ | .null, _ => pure true
  | .boolean, .bool value => pure (!value)
  | .sequence, value => value.isEmptySequence registry
  | _, _ => pure false

inductive Position where
  | first
  | other
  | last
  deriving DecidableEq, Repr

def Position.at (index : Nat) (last : Bool) : Position :=
  if index = 1 then .first else if last then .last else .other

/-- An element with its index, counted from one, and whether it is the last one. -/
structure Placed where
  index : Nat
  position : Position
  last : Bool
  element : Value

/-- Actions that change the store and something else besides, and may fail. -/
abbrev Run (σ : Type) := ExceptT Fault (StateM (Store × σ))

def liftAccess {σ α : Type} (action : Access α) : Run σ α :=
  ExceptT.mk fun (store, rest) =>
    let (result, store) := action.run store
    (result, (store, rest))

/-- Visits an element that has been read already, and all after it. -/
def visitFrom {σ : Type} (visit : Placed → Run σ Unit) :
    (fuel index : Nat) → Value → Cursor → Run σ Unit
  | 0, _, _, _ => pure ()
  | fuel + 1, index, element, cursor => do
      let following ← liftAccess cursor.next
      let last := following.isNone
      visit ⟨index, .at index last, last, element⟩
      match following with
      | none => return
      | some (element, cursor) => visitFrom visit fuel (index + 1) element cursor

def Value.visit {σ : Type} (registry : Registry) (value : Value) (visit : Placed → Run σ Unit) :
    Run σ Unit := do
  let cursor ← liftAccess (value.elements registry)
  let bound := cursor.bound (← get).1
  match ← liftAccess cursor.next with
  | none => return
  | some (element, cursor) => visitFrom visit bound 1 element cursor

/-- The placed elements of a sequence; those before a fault are delivered, too. -/
def Value.placed (registry : Registry) (value : Value) (store : Store) :
    List Placed × Option Fault × Store :=
  let collect := value.visit registry fun (placed : Placed) =>
    modify fun (store, seen) => (store, seen ++ [placed])
  match collect.run (store, []) with
  | (.ok _, (store, seen)) => (seen, none, store)
  | (.error fault, (store, seen)) => (seen, some fault, store)

end Mustache
