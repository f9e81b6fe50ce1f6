import Mustache.Value.Cursor

/-!
The registry of types that render as sequences. Which types there are, and when a value belongs to
one, is not for the registry to say, nor is what an adapter does. Types keep the place of their
first registration; registering one again only replaces its adapter. The first listed type that a
value belongs to decides.

How a value behaves in a section is told by its kind. Registered types come before the built-in
rules, and of these texts, octets and numbers before whatever can be iterated over.
-/

namespace Mustache

set_option autoImplicit false

/-- Types with what is registered for each of them, in the order in which they are asked. -/
structure Roster (τ α : Type) where
  entries : List (τ × α)
  deriving DecidableEq, Repr

namespace Roster

variable {τ α : Type}

def types (roster : Roster τ α) : List τ := roster.entries.map (·.1)

def registerIn [DecidableEq τ] (type : τ) (adapter : α) : List (τ × α) → List (τ × α)
  | [] => [(type, adapter)]
  | entry :: rest =>
      if entry.1 = type then (type, adapter) :: rest else entry :: registerIn type adapter rest

def register [DecidableEq τ] (roster : Roster τ α) (type : τ) (adapter : α) : Roster τ α :=
  ⟨registerIn type adapter roster.entries⟩

/-- Unregistering a type that is not registered changes nothing. -/
def unregister [DecidableEq τ] (roster : Roster τ α) (type : τ) : Roster τ α :=
  ⟨roster.entries.filter fun entry => entry.1 != type⟩

def adapterWhere? (roster : Roster τ α) (holds : τ → Bool) : Option α :=
  (roster.entries.find? fun entry => holds entry.1).map (·.2)

end Roster

abbrev Adapter := Value → Access Cursor

structure Registry where
  adapterFor? : Value → Option Adapter

def Registry.none : Registry := ⟨fun _ => Option.none⟩

/-- The registry that a roster makes, where it is known what belongs to each type. -/
def Roster.registry {τ : Type} (holds : τ → Value → Bool) (roster : Roster τ Adapter) : Registry :=
  ⟨fun value => roster.adapterWhere? (holds · value)⟩

inductive Kind where
  | missing
  | null
  | boolean
  | sequence
  | mapping
  | object
  | scalar
  deriving DecidableEq, Repr

def Value.builtinKind : Value → Kind
  | .missing => .missing
  | .null => .null
  | .bool _ => .boolean
  | .int _ | .float _ _ | .decimal _ _ | .fraction _ _ | .complex _ _ _ => .scalar
  | .text _ | .octets _ | .buffer _ _ => .scalar
  | .date _ _ _ => .scalar
  | .mapping _ _ => .mapping
  | .range _ _ _ | .tuple _ | .set _ | .list _ _ | .stream _ _ _ => .sequence
  | .array _ _ _ | .routine _ => .object
  | .object host => if host.items.isSome then .sequence else .object

def Value.kind (registry : Registry) (value : Value) : Kind :=
  match value with
  | .missing => .missing
  | .null => .null
  | .bool _ => .boolean
  | value => if (registry.adapterFor? value).isSome then .sequence else value.builtinKind

end Mustache
