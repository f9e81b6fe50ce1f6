import Mustache.Context
import Mustache.Proofs.Value.Offered

/-!
Names and elements of values. Looking up names, calling what is found and iterating give values that
do nothing more than the value that they are taken from, and fail as that one may. Adapters that keep
to this as well keep a whole rendering to it.
-/

namespace Mustache

set_option autoImplicit false

variable {allowed : Deed → Prop}

def Attribute.DoesOnly (allowed : Deed → Prop) : Attribute → Prop
  | .absent => True
  | .value found => found.DoesOnly allowed
  | .routine callee _ => (Value.routine callee).DoesOnly allowed

theorem Attribute.of_value {found : Value} (only : found.DoesOnly allowed) :
    (Attribute.ofValue found).DoesOnly allowed := by
  cases found <;> exact only

theorem Routine.run_gives {routine : Routine Value}
    (only : (Value.routine routine).DoesOnly allowed) : Gives allowed routine.run := by
  obtain ⟨cell, params, outcome, claimed⟩ := routine
  cases outcome with
  | returns result => exact .of_pure (only.part (List.mem_singleton.mpr rfl))
  | raises fault => exact .of_throw (only.own (List.mem_singleton.mpr rfl))
  | counts =>
      apply Upholds.of_get
      intro store
      exact .of_modify (gives_leaf rfl rfl)

theorem Routine.call_gives (own : ∀ cause, allowed (.raise (.value cause)))
    {routine : Routine Value} (only : (Value.routine routine).DoesOnly allowed) (bound : Bool)
    (count : Nat) : Gives allowed (routine.call bound count) := by
  unfold call
  split
  · exact routine.run_gives only
  · exact .of_throw (own _)

namespace HostObject

variable {host : HostObject Value} (only : (Value.object host).DoesOnly allowed)
include only

theorem own_does_only {name : String} {value : Value}
    (found : host.own.lookup name = some value) : value.DoesOnly allowed := by
  obtain ⟨before, after, split, -⟩ := List.lookup_eq_some_iff.mp found
  apply only.part
  simp [Value.parts, parts, split]

theorem member_does_only {name : String} {member : Member Value}
    (found : host.members.lookup name = some member) : member.part.DoesOnly allowed := by
  obtain ⟨before, after, split, -⟩ := List.lookup_eq_some_iff.mp found
  apply only.part
  simp [Value.parts, parts, split]

theorem fallback_does_only (name : String) :
    (host.fallbackAttribute name).DoesOnly allowed := by
  unfold fallbackAttribute
  split
  · next value found =>
      obtain ⟨before, after, split, -⟩ := List.lookup_eq_some_iff.mp found
      apply Attribute.of_value
      apply only.part
      simp [Value.parts, parts, split]
  · trivial

theorem items_do_only {items : List Value} (iterable : host.items = some items) :
    ∀ item ∈ items, item.DoesOnly allowed := by
  intro item member
  apply only.part
  simp [Value.parts, parts, iterable, member]

theorem indexed_do_only {items : List Value} (indexed : host.indexed = some items) :
    ∀ item ∈ items, item.DoesOnly allowed := by
  intro item member
  apply only.part
  simp [Value.parts, parts, indexed, member]

variable (own : ∀ cause, allowed (.raise (.value cause)))
include own

theorem find_upholds (name : String) :
    Confines allowed (Attribute.DoesOnly allowed) (host.find name) := by
  unfold find
  split
  · next getter found =>
      apply Upholds.of_try_catch
      · apply Upholds.of_bind (getter.call_gives own (member_does_only only found) true 0)
        intro value only
        exact .of_pure (Attribute.of_value only)
      · intro fault may
        split
        · exact .of_pure (fallback_does_only only name)
        · exact .of_throw may
  · split
    · next value found => exact .of_pure (Attribute.of_value (own_does_only only found))
    · split
      · next routine found => exact .of_pure (member_does_only only found)
      · next value _ found => exact .of_pure (member_does_only only found)
      · next routine found => exact .of_pure (member_does_only only found)
      · next routine found => exact .of_pure (member_does_only only found)
      · exact .of_pure (fallback_does_only only name)

theorem invoke_gives (name : String) (count : Nat) : Gives allowed (host.invoke name count) := by
  apply Upholds.of_bind (find_upholds only own name)
  intro found only
  cases found with
  | absent => exact .of_throw (own _)
  | value _ => exact .of_throw (own _)
  | routine callee bound => exact callee.call_gives own only bound count

end HostObject

theorem Attribute.used_gives (own : ∀ cause, allowed (.raise (.value cause))) {found : Attribute}
    (only : found.DoesOnly allowed) : Gives allowed found.used := by
  cases found with
  | absent => exact gives_leaf rfl rfl
  | value found => exact .of_pure only
  | routine callee bound =>
      dsimp only [used]
      split
      · exact callee.call_gives own only bound 0
      · exact gives_leaf rfl rfl

theorem entry_does_only {entries : List (Value × Value)}
    (each : ∀ entry ∈ entries, entry.2.DoesOnly allowed) (name : String) :
    (findEntry entries name).DoesOnly allowed := by
  induction entries with
  | nil => exact Value.does_only_of_leaf rfl rfl
  | cons entry rest induction =>
      obtain ⟨first, others⟩ := List.forall_mem_cons.mp each
      unfold findEntry
      split
      · next => exact Value.does_only_of_leaf rfl rfl
      · next key value rest same =>
          cases same
          split
          · exact first
          · exact induction others
      · next same =>
          cases same
          exact induction others

section Looking

variable (own : ∀ cause, allowed (.raise (.value cause)))
include own

theorem lookup_gives {value : Value} (only : value.DoesOnly allowed) (name : String) :
    Gives allowed (value.lookup name) := by
  have members : Gives allowed (if isPublicName name then
      ((value.member? name).map Builtin.used).getD (pure .missing) else pure .missing) := by
    split
    · have regular := Value.does_only_regular own
      refine (member_offers regular ?_ name).used regular
      rintro items cell rfl item member
      exact only.part member
    · exact gives_leaf rfl rfl
  cases value with
  | missing => exact gives_leaf rfl rfl
  | null => exact gives_leaf rfl rfl
  | mapping form entries =>
      refine .of_pure (entry_does_only ?_ name)
      intro entry member
      exact only.part (List.mem_append_right _ (List.mem_map_of_mem member))
  | object host =>
      dsimp only [Value.lookup, Value.lookupIn]
      split
      · exact .of_bind (host.find_upholds only own name) fun found only =>
          Attribute.used_gives own only
      · exact gives_leaf rfl rfl
  | _ => exact members

end Looking

def Cursor.DoesOnly (allowed : Deed → Prop) : Cursor → Prop
  | .fixed rest => ∀ item ∈ rest, item.DoesOnly allowed
  | .list items _ _ => ∀ item ∈ items.toList, item.DoesOnly allowed
  | .stream items failure _ =>
      (∀ item ∈ items.toList, item.DoesOnly allowed) ∧ ∀ fault ∈ failure, allowed (.raise fault)
  | .asked host _ => (Value.object host).DoesOnly allowed
  | .buffer _ _ _ | .counting _ _ _ => True

def Cursor.Delivers (allowed : Deed → Prop) (following : Option (Value × Cursor)) : Prop :=
  ∀ delivered ∈ following, delivered.1.DoesOnly allowed ∧ delivered.2.DoesOnly allowed

namespace Cursor

theorem delivers_none : Delivers allowed none := nofun

theorem delivers_some {element : Value} {rest : Cursor} (only : element.DoesOnly allowed)
    (others : rest.DoesOnly allowed) : Delivers allowed (some (element, rest)) := by
  rintro _ ⟨⟩
  exact ⟨only, others⟩

theorem item_of_place {α : Type} {store : Store} {items : Array α} {cell place : Nat} {item : α}
    (found : itemAt? store items cell place = some item) : item ∈ items.toList := by
  obtain ⟨index, _, there⟩ := Option.bind_eq_some_iff.mp found
  exact Array.mem_toList_iff.mpr (Array.mem_of_getElem? there)

end Cursor

section Iterating

variable (own : ∀ cause, allowed (.raise (.value cause)))
include own

theorem Cursor.next_upholds {cursor : Cursor} (only : cursor.DoesOnly allowed) :
    Confines allowed (Delivers allowed) cursor.next := by
  cases cursor with
  | fixed rest =>
      cases rest with
      | nil => exact .of_pure delivers_none
      | cons item rest =>
          obtain ⟨first, others⟩ := List.forall_mem_cons.mp only
          exact .of_pure (delivers_some first others)
  | list items cell place =>
      apply Upholds.of_get
      intro store
      apply Upholds.of_pure
      cases found : itemAt? store items cell place with
      | none => exact delivers_none
      | some item => exact delivers_some (only item (item_of_place found)) only
  | buffer content cell place =>
      apply Upholds.of_get
      intro store
      apply Upholds.of_pure
      cases itemAt? store content cell place with
      | none => exact delivers_none
      | some octet => exact delivers_some (Value.does_only_of_leaf rfl rfl) trivial
  | stream items failure cell =>
      apply Upholds.of_get
      intro store
      dsimp only
      split
      · next _ _ item found =>
          apply Upholds.of_modify
          apply Upholds.of_pure
          refine delivers_some (only.1 item ?_) only
          exact Array.mem_toList_iff.mpr (Array.mem_of_getElem? found)
      · next fault _ => exact .of_throw (only.2 fault rfl)
      · exact .of_pure delivers_none
  | counting next step left =>
      cases left with
      | zero => exact .of_pure delivers_none
      | succ left =>
          exact .of_pure (delivers_some (Value.does_only_of_leaf rfl rfl) trivial)
  | asked host left =>
      cases left with
      | zero => exact .of_pure delivers_none
      | succ left =>
          apply Upholds.of_bind (host.invoke_gives only own "opt" 1)
          intro element first
          exact .of_pure (delivers_some first only)

theorem Value.cursor_upholds {value : Value} (only : value.DoesOnly allowed) :
    Confines allowed (Cursor.DoesOnly allowed) value.cursor := by
  have each : ∀ part ∈ value.parts, part.DoesOnly allowed := fun part member => only.part member
  have refused : Confines allowed (Cursor.DoesOnly allowed)
      (throw (.value .notIterable) : Access Cursor) := .of_throw (own _)
  cases value with
  | text content =>
      apply Upholds.of_pure
      intro item member
      obtain ⟨c, _, rfl⟩ := List.mem_map.mp member
      exact does_only_of_leaf rfl rfl
  | octets content =>
      apply Upholds.of_pure
      intro item member
      obtain ⟨octet, _, rfl⟩ := List.mem_map.mp member
      exact does_only_of_leaf rfl rfl
  | buffer content cell => exact .of_pure trivial
  | range start stop step => exact .of_pure trivial
  | tuple items => exact .of_pure each
  | set items => exact .of_pure each
  | list items cell =>
      apply Upholds.of_pure
      intro item member
      exact each item member
  | mapping form entries =>
      apply Upholds.of_pure
      intro item member
      exact each item (List.mem_append_left _ member)
  | stream items failure cell =>
      apply Upholds.of_pure
      constructor
      · intro item member
        exact each item member
      · rintro fault ⟨⟩
        exact only.own (List.mem_singleton.mpr rfl)
  | object host =>
      dsimp only [Value.cursor]
      split
      · next items _ iterable => exact .of_pure (host.items_do_only only iterable)
      · next items _ indexed => exact .of_pure (host.indexed_do_only only indexed)
      · exact refused
  | _ => exact refused

def Registry.DoesOnly (allowed : Deed → Prop) (registry : Registry) : Prop :=
  ∀ value adapter, registry.adapterFor? value = some adapter → value.DoesOnly allowed →
    Confines allowed (Cursor.DoesOnly allowed) (adapter value)

omit own in
theorem Registry.none_does_only : Registry.none.DoesOnly allowed := nofun

theorem Value.elements_upholds {value : Value} {registry : Registry}
    (adapters : registry.DoesOnly allowed) (only : value.DoesOnly allowed) :
    Confines allowed (Cursor.DoesOnly allowed) (value.elements registry) := by
  unfold Value.elements
  split
  · next adapter found => exact adapters value adapter found only
  · exact value.cursor_upholds own only

theorem Value.falsy_upholds {value : Value} {registry : Registry}
    (adapters : registry.DoesOnly allowed) (only : value.DoesOnly allowed) :
    Confines allowed Anything (value.isFalsy registry) := by
  unfold Value.isFalsy
  split
  · exact .of_pure trivial
  · exact .of_pure trivial
  · exact .of_pure trivial
  · apply Upholds.of_get
    intro store
    dsimp only
    split
    · exact .of_bind (.of_except (Value.check_length_ensures own _)) fun _ _ => .of_pure trivial
    · apply Upholds.of_bind (Value.elements_upholds own adapters only)
      intro cursor others
      exact .of_bind (cursor.next_upholds own others) fun _ _ => .of_pure trivial
  · exact .of_pure trivial

end Iterating

section Visiting

variable {σ : Type} {visit : Placed → Run σ Unit}

theorem Upholds.of_access {α : Type} {good : α → Prop} {access : Access α}
    (upholds : Confines allowed good access) :
    Confines allowed good (liftAccess access : Run σ α) := fun state => upholds state.1

variable (own : ∀ cause, allowed (.raise (.value cause)))
  (each : ∀ placed, placed.element.DoesOnly allowed → Confines allowed Anything (visit placed))
include own each

theorem visit_from_upholds (fuel index : Nat) {element : Value} {cursor : Cursor}
    (first : element.DoesOnly allowed) (others : cursor.DoesOnly allowed) :
    Confines allowed Anything (visitFrom visit fuel index element cursor) := by
  induction fuel generalizing index element cursor with
  | zero => exact .of_pure trivial
  | succ fuel induction =>
      apply Upholds.of_bind (.of_access (cursor.next_upholds own others))
      intro following delivers
      apply Upholds.of_bind (each _ first)
      intro _ _
      cases following with
      | none => exact .of_pure trivial
      | some next =>
          obtain ⟨first, others⟩ := delivers next rfl
          exact induction _ first others

theorem Value.visit_upholds {value : Value} {registry : Registry}
    (adapters : registry.DoesOnly allowed) (only : value.DoesOnly allowed) :
    Confines allowed Anything (value.visit registry visit) := by
  apply Upholds.of_bind (.of_access (value.elements_upholds own adapters only))
  intro cursor others
  apply Upholds.of_get
  intro state
  apply Upholds.of_bind (.of_access (cursor.next_upholds own others))
  intro following delivers
  cases following with
  | none => exact .of_pure trivial
  | some next =>
      obtain ⟨first, others⟩ := delivers next rfl
      exact visit_from_upholds own each _ _ first others

end Visiting

end Mustache
