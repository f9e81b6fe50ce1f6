import Mustache.Proofs.Outcome
import Mustache.Value.Iteration

/-!
What the host code in a value may do besides giving values: raise faults, and replace the characters
of a text in a way of its own. Whatever is done to the value, what comes out of it does nothing more,
and all else that may happen are faults of the value's own kind.
-/

namespace Mustache

set_option autoImplicit false

inductive Deed where
  | raise (fault : Fault)
  | replace

/-- What a member of a class stands for, a routine being a value as well. -/
def Member.part : Member Value → Value
  | .plain value => value
  | .static routine | .classLevel routine | .property routine => .routine routine

def HostObject.parts (host : HostObject Value) : List Value :=
  host.own.map (·.2) ++ host.members.map (·.2.part) ++ host.fallback.map (·.2) ++
    host.items.getD [] ++ host.indexed.getD [] ++ host.replacing.toList.map .routine

/-- What a value holds, and what it comes to when it is called. -/
def Value.parts : Value → List Value
  | .tuple items | .set items | .list items _ | .stream items _ _ | .array _ items _ => items
  | .mapping _ entries => entries.map (·.1) ++ entries.map (·.2)
  | .routine ⟨_, _, .returns result, _⟩ => [result]
  | .object host => host.parts
  | _ => []

def Value.deeds : Value → List Deed
  | .routine ⟨_, _, .raises fault, _⟩ => [.raise fault]
  | .stream _ (some fault) _ => [.raise fault]
  | .object host => host.replacing.toList.map fun _ => .replace
  | _ => []

inductive Value.Does (deed : Deed) : Value → Prop where
  | here {value : Value} : deed ∈ value.deeds → Does deed value
  | inside {value part : Value} : part ∈ value.parts → Does deed part → Does deed value

abbrev Value.Raises (fault : Fault) (value : Value) : Prop := value.Does (.raise fault)

def Value.DoesOnly (allowed : Deed → Prop) (value : Value) : Prop :=
  ∀ deed, value.Does deed → allowed deed

abbrev Confines {σ α : Type} (allowed : Deed → Prop) (good : α → Prop)
    (action : ExceptT Fault (StateM σ) α) : Prop :=
  Upholds (fun fault => allowed (.raise fault)) good action

namespace Value

variable {allowed : Deed → Prop} {value : Value}

theorem DoesOnly.part {part : Value} (only : value.DoesOnly allowed)
    (member : part ∈ value.parts) : part.DoesOnly allowed :=
  fun deed does => only deed (.inside member does)

theorem DoesOnly.own {deed : Deed} (only : value.DoesOnly allowed)
    (member : deed ∈ value.deeds) : allowed deed := only deed (.here member)

theorem does_only_of_parts (own : ∀ deed ∈ value.deeds, allowed deed)
    (parts : ∀ part ∈ value.parts, part.DoesOnly allowed) : value.DoesOnly allowed := by
  rintro deed (here | ⟨member, does⟩)
  · exact own deed here
  · exact parts _ member deed does

theorem does_only_of_leaf (quiet : value.deeds = []) (leaf : value.parts = []) :
    value.DoesOnly allowed := by
  apply does_only_of_parts
  · rw [quiet]
    exact List.forall_mem_nil _
  · rw [leaf]
    exact List.forall_mem_nil _

end Value

def Gives (allowed : Deed → Prop) (action : Access Value) : Prop :=
  Confines allowed (Value.DoesOnly allowed) action

theorem gives_leaf {allowed : Deed → Prop} {value : Value} (quiet : value.deeds = [])
    (leaf : value.parts = []) : Gives allowed (pure value) :=
  .of_pure (Value.does_only_of_leaf quiet leaf)

end Mustache
