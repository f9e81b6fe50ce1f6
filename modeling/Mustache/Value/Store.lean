import Mustache.Value

/-!
The store: all that changes while values are looked up and iterated over. An order cell lists, by
their places in the value, the items that a list or buffer still has; items are taken out and
moved, never added, so an order never grows. A counter cell counts the calls of a routine or the
items that a stream has handed out.
-/

namespace Mustache

set_option autoImplicit false

open Number

structure Store where
  orders : Array (Array Nat)
  counters : Array Nat
  deriving DecidableEq, Repr

namespace Store

/-- The cell that all numbers from documents share. -/
def documentCell : Nat := 0

def empty : Store := ⟨#[], #[0]⟩

def order (store : Store) (cell : Nat) : Array Nat := store.orders.getD cell #[]

def setOrder (store : Store) (cell : Nat) (order : Array Nat) : Store :=
  { store with orders := store.orders.setIfInBounds cell order }

def counter (store : Store) (cell : Nat) : Nat := store.counters.getD cell 0

def setCounter (store : Store) (cell count : Nat) : Store :=
  { store with counters := store.counters.setIfInBounds cell count }

def held {α : Type} (store : Store) (items : List α) (cell : Nat) : List α :=
  let pool := items.toArray
  (store.order cell).toList.filterMap fun index => pool[index]?

end Store

/-- Makes a cell for items that are all there, in the order written. -/
def newOrder (size : Nat) : StateM Store Nat := fun store =>
  (store.orders.size, { store with orders := store.orders.push (Array.range size) })

def newCounter : StateM Store Nat := fun store =>
  (store.counters.size, { store with counters := store.counters.push 0 })

def newList (items : List Value) : StateM Store Value := do
  return .list items (← newOrder items.length)

def newBuffer (octets : List UInt8) : StateM Store Value := do
  return .buffer octets (← newOrder octets.length)

def newFloat (x : Double) : StateM Store Value := do return .float x (← newCounter)

def newDecimal (x : Exact) : StateM Store Value := do return .decimal x (← newCounter)

def newComplex (real imaginary : Double) : StateM Store Value := do
  return .complex real imaginary (← newCounter)

/-- Looking into values may change the store and may fail. -/
abbrev Access := ExceptT Fault (StateM Store)

end Mustache
