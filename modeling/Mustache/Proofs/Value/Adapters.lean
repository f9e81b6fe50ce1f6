import Mustache.Proofs.Value.Traversed
import Mustache.Proofs.Value.Visited
import Mustache.Value.Adapters

/-!
The adapters that a host program gets along with do nothing by themselves, and read nothing but what
is public. So a registry made of them meets all that is asked of registries.
-/

namespace Mustache

set_option autoImplicit false

def Adapter.standard : List Adapter := [plain, elements, reverse, items, empty, single, number]

def Adapter.DoesOnly (allowed : Deed → Prop) (adapter : Adapter) : Prop :=
  ∀ value, value.DoesOnly allowed → Confines allowed (Cursor.DoesOnly allowed) (adapter value)

def Adapter.Respects (guise : Guise) (base : Store) (adapter : Adapter) : Prop :=
  ∀ value, guise.Starts base (adapter value) (adapter (value.under guise))

section Doing

variable {allowed : Deed → Prop} (own : ∀ cause, allowed (.raise (.value cause)))
include own

theorem Cursor.drain_upholds {cursor : Cursor} (fuel : Nat) (only : cursor.DoesOnly allowed) :
    Confines allowed (fun items => ∀ item ∈ items, Value.DoesOnly allowed item)
      (cursor.drain fuel) := by
  induction fuel generalizing cursor with
  | zero => exact .of_pure (List.forall_mem_nil _)
  | succ fuel induction =>
      apply Upholds.of_bind (cursor.next_upholds own only)
      intro following delivers
      cases following with
      | none => exact .of_pure (List.forall_mem_nil _)
      | some delivered =>
          obtain ⟨first, others⟩ := delivers delivered rfl
          apply Upholds.of_bind (induction others)
          intro items rest
          exact .of_pure (List.forall_mem_cons.mpr ⟨first, rest⟩)

theorem make_room_ensures (length : Option Int) :
    Ensures (fun fault => allowed (.raise fault)) Anything (makeRoom length) := by
  cases length with
  | none => trivial
  | some length =>
      apply Ensures.of_bind (Value.check_length_ensures own length)
      intro size _
      split
      · exact own _
      · trivial

theorem Value.contents_upholds {value : Value} (only : value.DoesOnly allowed) :
    Confines allowed (fun items => ∀ item ∈ items, Value.DoesOnly allowed item)
      value.contents := by
  apply Upholds.of_bind (value.cursor_upholds own only)
  intro cursor others
  have drains : Confines allowed (fun items => ∀ item ∈ items, Value.DoesOnly allowed item)
      (do cursor.drain (cursor.bound (← get) + 1)) := by
    apply Upholds.of_get
    intro store
    exact cursor.drain_upholds own _ others
  split
  · exact .of_bind (.of_except (make_room_ensures own _)) fun _ _ => drains
  · exact drains

theorem HostObject.asked_upholds {host : HostObject Value}
    (only : (Value.object host).DoesOnly allowed) :
    Confines allowed (Cursor.DoesOnly allowed) host.askedCursor := by
  apply Upholds.of_bind (host.invoke_gives only own "length" 0)
  intro length _
  split
  · exact .of_pure only
  · exact .of_pure only
  · exact .of_throw (own _)

theorem Adapter.items_does_only : Adapter.items.DoesOnly allowed := by
  intro value only
  unfold Adapter.items
  split
  · next form entries =>
      apply Upholds.of_pure
      intro item member
      obtain ⟨entry, there, rfl⟩ := List.mem_map.mp member
      refine Value.does_only_of_parts nofun (List.forall_mem_cons.mpr
        ⟨?_, List.forall_mem_singleton.mpr ?_⟩)
      · exact only.part (List.mem_append_left _ (List.mem_map_of_mem there))
      · exact only.part (List.mem_append_right _ (List.mem_map_of_mem there))
  · next host =>
      apply Upholds.of_bind (host.invoke_gives only own "items" 0)
      intro items only
      exact items.cursor_upholds own only
  · exact .of_throw (own _)

theorem Adapter.standard_does_only : ∀ adapter ∈ Adapter.standard, adapter.DoesOnly allowed := by
  have elements : Adapter.elements.DoesOnly allowed := by
    intro value only
    unfold Adapter.elements
    split
    · exact .of_pure fun item member => only.part member
    · next host => exact host.asked_upholds own only
    · exact .of_throw (own _)
  have reverse : Adapter.reverse.DoesOnly allowed := by
    intro value only
    apply Upholds.of_bind (value.contents_upholds own only)
    intro items each
    exact .of_pure fun item member => each item (List.mem_reverse.mp member)
  have empty : Adapter.empty.DoesOnly allowed := fun _ _ => .of_pure (List.forall_mem_nil _)
  have single : Adapter.single.DoesOnly allowed :=
    fun _ only => .of_pure (List.forall_mem_singleton.mpr only)
  have number : Adapter.number.DoesOnly allowed := fun _ _ => .of_throw (own _)
  simpa only [Adapter.standard, List.forall_mem_cons, List.not_mem_nil, false_implies,
    implies_true, and_true] using
    ⟨fun value only => value.cursor_upholds own only, elements, reverse,
      Adapter.items_does_only own, empty, single, number⟩

end Doing

section Mirroring

variable {guise : Guise} {base : Store}

theorem Cursor.drain_mirrors (fuel : Nat) (cursor : Cursor) :
    Mirrors (guise.Links base) (List.map (Value.under guise)) (cursor.drain fuel)
      ((cursor.under guise).drain fuel) := by
  induction fuel generalizing cursor with
  | zero => exact .of_pure _
  | succ fuel induction =>
      apply Mirrors.of_bind cursor.next_advances
      intro following
      cases following with
      | none => exact .of_pure _
      | some delivered => exact .of_bind (induction delivered.2) fun items => .of_pure _

theorem Value.contents_mirrors (value : Value) :
    Mirrors (guise.Links base) (List.map (Value.under guise)) value.contents
      (value.under guise).contents := by
  apply Mirrors.of_bind value.cursor_starts
  intro cursor
  have drains : Mirrors (guise.Links base) (List.map (Value.under guise))
      (do cursor.drain (cursor.bound (← get) + 1))
      (do (cursor.under guise).drain ((cursor.under guise).bound (← get) + 1)) := by
    apply Mirrors.of_get
    intro store store' links
    rw [cursor.bound_under links]
    exact cursor.drain_mirrors _
  cases value with
  | object host =>
      have room : Mirrors (guise.Links base) id (makeRoom host.length : Access Unit)
          (makeRoom (underHost guise host).length : Access Unit) := by
        rw [under_host_length]
        exact .of_except _
      exact .of_bind room fun _ => drains
  | _ => exact drains

theorem HostObject.asked_starts (host : HostObject Value) :
    guise.Starts base host.askedCursor (underHost guise host).askedCursor := by
  apply Mirrors.of_bind (host.invoke_reflects (guise.shows_public "length" rfl) 0)
  intro length
  cases length with
  | int length => exact .of_pure _
  | bool length => exact .of_pure _
  | _ => exact .of_throw _

theorem Adapter.items_respect : Adapter.items.Respects guise base := by
  intro value
  cases value with
  | mapping form entries =>
      apply fixed_starts
      rw [under_entries_eq, List.map_map, List.map_map]
      rfl
  | object host =>
      apply Mirrors.of_bind (host.invoke_reflects (guise.shows_public "items" rfl) 0)
      exact Value.cursor_starts
  | _ => exact .of_throw _

theorem Adapter.standard_respects : ∀ adapter ∈ Adapter.standard, adapter.Respects guise base := by
  have elements : Adapter.elements.Respects guise base := by
    intro value
    cases value with
    | array derived items cell => exact fixed_starts (under_each_eq guise items).symm
    | object host => exact host.asked_starts
    | _ => exact .of_throw _
  have reverse : Adapter.reverse.Respects guise base := by
    intro value
    apply Mirrors.of_bind value.contents_mirrors
    intro items
    exact fixed_starts List.map_reverse
  have empty : Adapter.empty.Respects guise base := fun _ => fixed_starts rfl
  have single : Adapter.single.Respects guise base := fun _ => fixed_starts rfl
  have number : Adapter.number.Respects guise base := fun _ => .of_throw _
  simpa only [Adapter.standard, List.forall_mem_cons, List.not_mem_nil, false_implies,
    implies_true, and_true] using
    ⟨Value.cursor_starts, elements, reverse, Adapter.items_respect, empty, single, number⟩

/-- No type tells a value from its guise. -/
theorem HostType.holds_under (type : HostType) (value : Value) :
    type.holds (value.under guise) = type.holds value := by
  cases type <;> cases value <;> rfl

end Mirroring

namespace Roster

variable {roster : Roster HostType Adapter}
  (standard : ∀ adapter ∈ roster.entries.map (·.2), adapter ∈ Adapter.standard)

theorem adapter_mem {value : Value} {adapter : Adapter}
    (found : (roster.registry HostType.holds).adapterFor? value = some adapter) :
    adapter ∈ roster.entries.map (·.2) := by
  obtain ⟨entry, there, rfl⟩ := Option.map_eq_some_iff.mp found
  exact List.mem_map_of_mem (List.mem_of_find?_eq_some there)

include standard

theorem registry_does_only {allowed : Deed → Prop}
    (own : ∀ cause, allowed (.raise (.value cause))) :
    (roster.registry HostType.holds).DoesOnly allowed :=
  fun value adapter found =>
    Adapter.standard_does_only own adapter (standard adapter (adapter_mem found)) value

theorem registry_keeps_to (view : View) (orders counters : Nat → Prop) :
    (roster.registry HostType.holds).KeepsTo view orders counters := by
  intro guise base _ _ _ value
  have same : (roster.registry HostType.holds).adapterFor? (value.under guise) =
      (roster.registry HostType.holds).adapterFor? value := by
    simp only [Roster.registry, HostType.holds_under]
  rw [same]
  cases found : (roster.registry HostType.holds).adapterFor? value with
  | none => exact .none
  | some adapter =>
      exact .some (Adapter.standard_respects adapter (standard adapter (adapter_mem found)) value)

end Roster

end Mustache
