import Mustache.Value.Lookup

/-!
Cursors. A cursor stands in front of the elements that are still to come. Lists and buffers are read
by place as they are at that moment, so that a change while they are iterated over shows; streams
lose what is read from them; all else is fixed from the start.
-/

namespace Mustache

set_option autoImplicit false

inductive Cursor where
  | fixed (rest : List Value)
  | list (items : Array Value) (cell place : Nat)
  | buffer (content : Array UInt8) (cell place : Nat)
  | stream (items : Array Value) (failure : Option Fault) (cell : Nat)
  | counting (next step : Int) (left : Nat)
  /-- Items that an object of host code is asked for one by one. -/
  | asked (host : HostObject Value) (left : Nat)

namespace Cursor

def itemAt? {α : Type} (store : Store) (items : Array α) (cell place : Nat) : Option α := do
  items[← (store.order cell)[place]?]?

def next : Cursor → Access (Option (Value × Cursor))
  | .fixed [] => pure none
  | .fixed (item :: rest) => pure (some (item, .fixed rest))
  | .list items cell place => do
      return (itemAt? (← get) items cell place).map fun item =>
        (item, .list items cell (place + 1))
  | .buffer content cell place => do
      return (itemAt? (← get) content cell place).map fun octet =>
        (.int octet.toNat, .buffer content cell (place + 1))
  | .stream items failure cell => do
      let taken := (← get).counter cell
      match items[taken]?, failure with
      | some item, _ =>
          modify fun store => store.setCounter cell (taken + 1)
          return some (item, .stream items failure cell)
      | none, some fault => throw fault
      | none, none => return none
  | .counting _ _ 0 => pure none
  | .counting next step (left + 1) => pure (some (.int next, .counting (next + step) step left))
  | .asked _ 0 => pure none
  | .asked host (left + 1) => do return some (← host.invoke "opt" 1, .asked host left)

/-- No more elements than these are to come, whatever happens in between. -/
def bound (store : Store) : Cursor → Nat
  | .fixed rest => rest.length
  | .list _ cell place => (store.order cell).size - place
  | .buffer _ cell place => (store.order cell).size - place
  | .stream items _ cell => items.size - store.counter cell
  | .counting _ _ left | .asked _ left => left

def drain : (fuel : Nat) → Cursor → Access (List Value)
  | 0, _ => pure []
  | fuel + 1, cursor => do
      match ← cursor.next with
      | none => return []
      | some (item, rest) => return item :: (← drain fuel rest)

end Cursor

def Value.cursor : Value → Access Cursor
  | .text content => pure (.fixed (content.toList.map fun c => .text (String.singleton c)))
  | .octets content => pure (.fixed (content.map fun octet => .int octet.toNat))
  | .buffer content cell => pure (.buffer content.toArray cell 0)
  | .range start stop step => pure (.counting start step (rangeLength start stop step))
  | .tuple items => pure (.fixed items)
  | .set items => pure (.fixed items)
  | .list items cell => pure (.list items.toArray cell 0)
  | .mapping _ entries => pure (.fixed (entries.map (·.1)))
  | .stream items failure cell => pure (.stream items.toArray failure cell)
  | .object host =>
      match host.items, host.indexed with
      | some items, _ => pure (.fixed items)
      | none, some items => pure (.fixed items)
      | none, none => throw (.value .notIterable)
  | _ => throw (.value .notIterable)

end Mustache
