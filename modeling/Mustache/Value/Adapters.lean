import Mustache.Value.Registry
import Mustache.Value.Truth

/-!
Types to register and adapters to register for them. A registry may have others; these are the ones
that a host program gets along with: arrays and objects that work like one, mappings by their
entries, sequences from behind, and values that count as one element or as none.
-/

namespace Mustache

set_option autoImplicit false

/-- Whole numbers include the booleans, arrays include the ones derived from them, and everything
is anything. -/
inductive HostType where
  | anything
  | array
  | derivedArray
  | object
  | customMapping
  | text
  | int
  | bool
  | list
  | dictionary
  | octets
  | null
  | missing
  deriving DecidableEq, Repr

def HostType.holds : HostType → Value → Bool
  | .anything, _ => true
  | .array, .array _ _ _ => true
  | .derivedArray, .array derived _ _ => derived
  | .object, .object _ => true
  | .customMapping, .mapping form _ => form == .custom
  | .text, .text _ => true
  | .int, .int _ => true
  | .int, .bool _ => true
  | .bool, .bool _ => true
  | .list, .list _ _ => true
  | .dictionary, .mapping form _ => form == .dictionary
  | .octets, .octets _ => true
  | .null, .null => true
  | .missing, .missing => true
  | _, _ => false

def roomLimit : Nat := Nat.pow 2 33

def makeRoom (length : Option Int) : Except Fault Unit := do
  match length with
  | none => return
  | some length =>
      if (← checkLength length) > roomLimit then throw (.value .tooLong) else return

def Value.contents (value : Value) : Access (List Value) := do
  let cursor ← value.cursor
  match value with
  | .object host => makeRoom host.length
  | _ => pure ()
  cursor.drain (cursor.bound (← get) + 1)

/-- A cursor over an object that works like an array: it knows its length and gives each item. -/
def HostObject.askedCursor (host : HostObject Value) : Access Cursor := do
  match ← host.invoke "length" 0 with
  | .int length => return .asked host length.toNat
  | .bool length => return .asked host length.toNat
  | _ => throw (.value .wrongType)

namespace Adapter

def plain : Adapter := Value.cursor

def elements : Adapter
  | .array _ contents _ => pure (.fixed contents)
  | .object host => host.askedCursor
  | _ => throw (.value .noSuchMember)

def reverse : Adapter := fun value => do return .fixed (← value.contents).reverse

def items : Adapter
  | .mapping _ entries => pure (.fixed (entries.map fun entry => .tuple [entry.1, entry.2]))
  | .object host => do (← host.invoke "items" 0).cursor
  | _ => throw (.value .noSuchMember)

def empty : Adapter := fun _ => pure (.fixed [])

def single : Adapter := fun value => pure (.fixed [value])

def number : Adapter := fun _ => throw (.value .notIterable)

end Adapter

end Mustache
