import Mustache.Fault
import Mustache.Number.Exact

/-!
The values that templates are rendered against. A value is a finite tree. What can change while a
template is rendered is not part of it: a list, a buffer or a stream has a cell, and the cell says
which of its items are left and in which order. Likewise a routine has a cell for its calls, and
objects have one that only tells them apart, as numbers that are not whole do: one that equals no
number is still itself. The cells themselves are in the store.
-/

namespace Mustache

set_option autoImplicit false

open Number

inductive Param where
  | required
  | optional
  | positional
  | anyPositional
  | anyKeyword
  | requiredKeyword
  | optionalKeyword
  deriving DecidableEq, Repr

namespace Param

/-- Arguments that are given by their places can go to the parameter, one to each. -/
def takesPlace : Param → Bool
  | .required | .optional | .positional => true
  | .anyPositional | .anyKeyword | .requiredKeyword | .optionalKeyword => false

def needsArgument : Param → Bool
  | .required | .positional | .requiredKeyword => true
  | .optional | .anyPositional | .anyKeyword | .optionalKeyword => false

end Param

/-- What a call comes to. A counting routine returns how often it has been called. -/
inductive Outcome (α : Type) where
  | returns (result : α)
  | counts
  | raises (fault : Fault)

/-- A function of host code. `claimed` are the parameters that it is said to have where its own
attribute `_partialmethod` makes a claim about them, whatever they are. -/
structure Routine (α : Type) where
  cell : Nat
  params : List Param
  outcome : Outcome α
  claimed : Option (List Param)

/-- An attribute of a class. A routine stored as a plain one takes the object that it is reached
through as its first argument, as a class level one takes the class. -/
inductive Member (α : Type) where
  | plain (value : α)
  | static (routine : Routine α)
  | classLevel (routine : Routine α)
  | property (getter : Routine α)

/-- An object of host code. `fallback` is asked for attributes that nothing else has; `items` are
what it iterates over anew each time, `indexed` what it offers by index only. Its text may replace
characters in a way of its own. -/
structure HostObject (α : Type) where
  cell : Nat
  own : List (String × α)
  members : List (String × Member α)
  fallback : List (String × α)
  items : Option (List α)
  indexed : Option (List α)
  length : Option Int
  quoted : String
  text : String
  replacing : Option (Routine α)

/-- A plain dictionary, a read-only view of one, or a mapping of host code. -/
inductive MappingForm where
  | dictionary
  | view
  | custom
  deriving DecidableEq, Repr

inductive Value where
  /-- The result of a name that nothing defines. -/
  | missing
  | null
  | bool (value : Bool)
  | int (value : Int)
  | float (value : Double) (cell : Nat)
  | decimal (value : Exact) (cell : Nat)
  | fraction (numerator : Int) (denominator : Nat)
  | complex (real imaginary : Double) (cell : Nat)
  | text (content : String)
  | octets (content : List UInt8)
  | buffer (content : List UInt8) (cell : Nat)
  | date (year month day : Nat)
  | range (start stop step : Int)
  | tuple (items : List Value)
  | set (items : List Value)
  | list (items : List Value) (cell : Nat)
  | mapping (form : MappingForm) (entries : List (Value × Value))
  /-- Items that are handed out once; after the last one it ends, or fails every time. -/
  | stream (items : List Value) (failure : Option Fault) (cell : Nat)
  /-- A sequence of host code that cannot be iterated over as it is. -/
  | array (derived : Bool) (items : List Value) (cell : Nat)
  | routine (routine : Routine Value)
  | object (object : HostObject Value)

instance : Inhabited Value := ⟨.null⟩

def Value.isMissing : Value → Bool
  | .missing => true
  | _ => false

end Mustache
