import Mustache.Proofs.Value.Mirrored
import Mustache.Value.Iteration

/-!
Names and elements of values in a guise. Whatever is looked up or iterated over, the same done to
the value in a guise comes to the same result in that guise, and leaves the stores linked. Names
that are looked up are public ones, so it makes no difference which others the guise shows.
-/

namespace Mustache

set_option autoImplicit false

def Attribute.under (guise : Guise) : Attribute → Attribute
  | .absent => .absent
  | .value found => .value (found.under guise)
  | .routine callee bound => .routine (underRoutine guise callee) bound

section Looking

variable {guise : Guise} {base : Store}

theorem Attribute.of_value_under (found : Value) :
    Attribute.ofValue (found.under guise) = (Attribute.ofValue found).under guise := by
  cases found <;> rfl

namespace Routine

theorem run_reflects (callee : Routine Value) :
    guise.Reflects base callee.run (underRoutine guise callee).run := by
  obtain ⟨cell, params, outcome, claimed⟩ := callee
  cases outcome with
  | returns result => exact .of_pure result
  | raises fault => exact .of_throw fault
  | counts =>
      apply Mirrors.of_get
      intro store store' links
      dsimp only [underRoutine]
      rw [links.counter]
      apply Mirrors.of_modify
      · exact fun store store' links => links.set_counter cell _
      · exact pure_reflects rfl

theorem call_reflects (callee : Routine Value) (bound : Bool) (count : Nat) :
    guise.Reflects base (callee.call bound count) ((underRoutine guise callee).call bound count) := by
  unfold call
  rw [under_routine_params]
  split
  · exact callee.run_reflects
  · exact .of_throw _

theorem takes_under (callee : Routine Value) (bound : Bool) :
    (underRoutine guise callee).takesNoArguments bound = callee.takesNoArguments bound := by
  unfold takesNoArguments signature
  rw [under_routine_params, under_routine_claimed]

end Routine

theorem Attribute.used_reflects (found : Attribute) :
    guise.Reflects base found.used (found.under guise).used := by
  cases found with
  | absent => exact pure_reflects rfl
  | value found => exact .of_pure found
  | routine callee bound =>
      simp only [under, used, callee.takes_under]
      split
      · exact callee.call_reflects bound 0
      · exact pure_reflects rfl

namespace HostObject

variable (host : HostObject Value) {name : String} (shown : guise.shows name = true)
include shown

theorem fallback_under :
    (underHost guise host).fallbackAttribute name = (host.fallbackAttribute name).under guise := by
  unfold fallbackAttribute
  rw [under_host_fallback, lookup_under_named shown]
  cases host.fallback.lookup name with
  | none => rfl
  | some value => exact Attribute.of_value_under value

theorem find_mirrors :
    Mirrors (guise.Links base) (Attribute.under guise) (host.find name)
      ((underHost guise host).find name) := by
  have falls : Mirrors (guise.Links base) (Attribute.under guise)
      (pure (host.fallbackAttribute name))
      (pure ((underHost guise host).fallbackAttribute name)) := by
    rw [fallback_under host shown]
    exact .of_pure _
  have found (value : Value) : Mirrors (guise.Links base) (Attribute.under guise)
      (pure (Attribute.ofValue value)) (pure (Attribute.ofValue (value.under guise))) := by
    rw [Attribute.of_value_under]
    exact .of_pure _
  unfold find
  rw [under_host_members, lookup_under_members shown, under_host_own, lookup_under_named shown]
  -- A property of the class comes before the object's own attributes, all else behind them.
  cases host.members.lookup name with
  | none =>
      cases host.own.lookup name with
      | none => exact falls
      | some value => exact found value
  | some member =>
      cases member with
      | property getter =>
          apply Mirrors.of_try_catch
          · exact .of_bind (getter.call_reflects true 0) found
          · intro fault
            split
            · exact falls
            · exact .of_throw fault
      | plain value =>
          cases host.own.lookup name with
          | some value => exact found value
          | none =>
              cases value with
              | routine callee => exact .of_pure (Attribute.routine callee true)
              | _ => exact .of_pure (Attribute.value _)
      | static callee =>
          cases host.own.lookup name with
          | some value => exact found value
          | none => exact .of_pure (Attribute.routine callee false)
      | classLevel callee =>
          cases host.own.lookup name with
          | some value => exact found value
          | none => exact .of_pure (Attribute.routine callee true)

theorem invoke_reflects (count : Nat) :
    guise.Reflects base (host.invoke name count) ((underHost guise host).invoke name count) := by
  apply Mirrors.of_bind (find_mirrors host shown)
  intro found
  cases found with
  | absent => exact .of_throw _
  | value _ => exact .of_throw _
  | routine callee bound => exact callee.call_reflects bound count

end HostObject

theorem find_entry_under (entries : List (Value × Value)) (name : String) :
    findEntry (entries.map (Prod.map (Value.under guise) (Value.under guise))) name =
      (findEntry entries name).under guise := by
  induction entries with
  | nil => rfl
  | cons entry rest induction =>
      obtain ⟨key, value⟩ := entry
      cases key with
      | text key =>
          simp only [List.map_cons, Prod.map, Value.under, findEntry, induction]
          split <;> rfl
      | _ => exact induction

theorem lookup_reflects (value : Value) (name : String) :
    guise.Reflects base (value.lookup name) ((value.under guise).lookup name) := by
  have members : guise.Reflects base
      (if isPublicName name then ((value.member? name).map Builtin.used).getD (pure .missing)
        else pure .missing)
      (if isPublicName name then
        (((value.under guise).member? name).map Builtin.used).getD (pure .missing)
        else pure .missing) := by
    split
    · exact (member_reflects value name).used_reflects
    · exact pure_reflects rfl
  cases value with
  | missing | null => exact pure_reflects rfl
  | mapping form entries =>
      apply pure_reflects
      rw [under_entries_eq, find_entry_under]
  | object host =>
      dsimp only [Value.under, Value.lookup, Value.lookupIn]
      split
      · next isPublic =>
          exact .of_bind (host.find_mirrors (guise.shows_public name isPublic))
            Attribute.used_reflects
      · exact pure_reflects rfl
  | _ => exact members

end Looking

def Cursor.under (guise : Guise) : Cursor → Cursor
  | .fixed rest => .fixed (rest.map (Value.under guise))
  | .list items cell place => .list (items.map (Value.under guise)) (guise.order cell) place
  | .buffer content cell place => .buffer content (guise.order cell) place
  | .stream items failure cell =>
      .stream (items.map (Value.under guise)) failure (guise.counter cell)
  | .counting next step left => .counting next step left
  | .asked host left => .asked (underHost guise host) left

section Iterating

variable {guise : Guise} {base : Store}

abbrev Guise.Advances (guise : Guise) (base : Store)
    (action other : Access (Option (Value × Cursor))) : Prop :=
  Mirrors (guise.Links base) (Option.map (Prod.map (Value.under guise) (Cursor.under guise)))
    action other

theorem Cursor.item_at_under {α β : Type} {store store' : Store}
    (links : guise.Links base store store') (image : α → β) (items : Array α) (cell place : Nat) :
    itemAt? store' (items.map image) (guise.order cell) place =
      (itemAt? store items cell place).map image := by
  unfold itemAt?
  rw [links.order]
  cases (store.order cell)[place]? with
  | none => rfl
  | some index => simp

theorem Cursor.next_advances (cursor : Cursor) :
    guise.Advances base cursor.next (cursor.under guise).next := by
  cases cursor with
  | fixed rest => cases rest <;> exact .of_pure _
  | list items cell place =>
      apply Mirrors.of_get
      intro store store' links
      rw [item_at_under links]
      cases itemAt? store items cell place <;> exact .of_pure _
  | buffer content cell place =>
      apply Mirrors.of_get
      intro store store' links
      have same := item_at_under links id content cell place
      rw [Array.map_id, Option.map_id] at same
      rw [same]
      cases itemAt? store content cell place <;> exact .of_pure _
  | stream items failure cell =>
      apply Mirrors.of_get
      intro store store' links
      rw [links.counter]
      dsimp only
      rw [Array.getElem?_map]
      cases items[store.counter cell]? with
      | some item =>
          apply Mirrors.of_modify
          · exact fun store store' links => links.set_counter cell _
          · exact .of_pure _
      | none =>
          cases failure with
          | some fault => exact .of_throw fault
          | none => exact .of_pure _
  | counting next step left => cases left <;> exact .of_pure _
  | asked host left =>
      cases left with
      | zero => exact .of_pure _
      | succ left =>
          apply Mirrors.of_bind (host.invoke_reflects (guise.shows_public "opt" rfl) 1)
          intro item
          exact .of_pure _

theorem Cursor.bound_under {store store' : Store} (links : guise.Links base store store')
    (cursor : Cursor) : (cursor.under guise).bound store' = cursor.bound store := by
  cases cursor <;> simp [Cursor.under, bound, links.order, links.counter]

abbrev Guise.Starts (guise : Guise) (base : Store) (action other : Access Cursor) : Prop :=
  Mirrors (guise.Links base) (Cursor.under guise) action other

theorem fixed_starts {items items' : List Value} (same : items.map (Value.under guise) = items') :
    guise.Starts base (pure (.fixed items)) (pure (.fixed items')) := by
  subst same
  exact .of_pure _

theorem Value.cursor_starts (value : Value) :
    guise.Starts base value.cursor (value.under guise).cursor := by
  cases value with
  | text content =>
      apply fixed_starts
      rw [List.map_map]
      rfl
  | octets content =>
      apply fixed_starts
      rw [List.map_map]
      rfl
  | buffer content cell => exact .of_pure _
  | range start stop step => exact .of_pure _
  | tuple items => exact fixed_starts (under_each_eq guise items).symm
  | set items => exact fixed_starts (under_each_eq guise items).symm
  | list items cell =>
      dsimp only [Value.under, Value.cursor]
      rw [under_each_eq, ← List.map_toArray]
      exact .of_pure _
  | mapping form entries =>
      apply fixed_starts
      rw [under_entries_eq, List.map_map, List.map_map]
      rfl
  | stream items failure cell =>
      dsimp only [Value.under, Value.cursor]
      rw [under_each_eq, ← List.map_toArray]
      exact .of_pure _
  | object host =>
      dsimp only [Value.under, Value.cursor]
      rw [under_host_items, under_host_indexed, under_items_eq, under_items_eq]
      cases host.items with
      | some items => exact .of_pure _
      | none =>
          cases host.indexed with
          | some items => exact .of_pure _
          | none => exact .of_throw _
  | _ => exact .of_throw _

/-- What adapters make of a value in a guise is in that guise, if nothing of what it leaves out is
theirs. -/
def Registry.Respects (registry : Registry) (guise : Guise) (base : Store) : Prop :=
  ∀ value, Option.Rel
    (fun adapter adapter' => guise.Starts base (adapter value) (adapter' (value.under guise)))
    (registry.adapterFor? value) (registry.adapterFor? (value.under guise))

/-- Adapters read no attributes but those that a view shows, and have no cells but these that they
come back to. -/
def Registry.KeepsTo (registry : Registry) (view : View) (orders counters : Nat → Prop) : Prop :=
  ∀ guise base, guise.toView = view → (∀ cell, orders cell → guise.order cell = cell) →
    (∀ cell, counters cell → guise.counter cell = cell) → registry.Respects guise base

theorem Registry.none_keeps_to (view : View) (orders counters : Nat → Prop) :
    Registry.none.KeepsTo view orders counters := fun _ _ _ _ _ _ => .none

theorem Registry.KeepsTo.respects {registry : Registry} {view : View}
    {orders counters : Nat → Prop} (keeps : registry.KeepsTo view orders counters) (base : Store) :
    registry.Respects view.guise base :=
  keeps view.guise base rfl (fun _ _ => rfl) fun _ _ => rfl

theorem Cursor.under_whole (cursor : Cursor) : cursor.under View.whole.guise = cursor := by
  have each : List.map (Value.under View.whole.guise) = id := by
    funext items
    rw [← under_each_eq, under_each_whole, id]
  have every (items : Array Value) : items.map (Value.under View.whole.guise) = items := by
    apply Array.toList_inj.mp
    rw [Array.toList_map, each, id]
  cases cursor with
  | fixed rest => exact congrArg fixed (congrFun each rest)
  | list items cell place => exact congrArg (list · cell place) (every items)
  | stream items failure cell => exact congrArg (stream · failure cell) (every items)
  | asked host left => exact congrArg (asked · left) (under_host_whole host)
  | buffer _ _ _ | counting _ _ _ => rfl

/-- All adapters respect a guise that changes nothing. -/
theorem Registry.respects_whole (registry : Registry) (base : Store) :
    registry.Respects View.whole.guise base := by
  intro value
  rw [value.under_whole]
  cases registry.adapterFor? value with
  | none => exact .none
  | some adapter =>
      refine .some fun store store' links => ?_
      cases View.eq_of_links _ links
      have same : Cursor.under View.whole.guise = id := funext Cursor.under_whole
      rw [same, Except.map_id]
      exact ⟨rfl, View.links _ base _⟩

namespace Registry.Respects

variable {registry : Registry} (respects : registry.Respects guise base)
include respects

theorem registered (value : Value) : (registry.adapterFor? (value.under guise)).isSome =
    (registry.adapterFor? value).isSome := by
  have both := respects value
  generalize registry.adapterFor? value = found at both ⊢
  generalize registry.adapterFor? (value.under guise) = found' at both ⊢
  cases both <;> rfl

theorem kind_under (value : Value) : (value.under guise).kind registry = value.kind registry := by
  have registered := respects.registered value
  have builtin := builtin_kind_under guise value
  cases value with
  | missing | null | bool _ => rfl
  | _ =>
      change (if (registry.adapterFor? (Value.under guise _)).isSome then Kind.sequence
        else (Value.under guise _).builtinKind) = _
      rw [registered, builtin]
      rfl

theorem elements_start (value : Value) :
    guise.Starts base (value.elements registry) ((value.under guise).elements registry) := by
  have both := respects value
  unfold Value.elements
  generalize registry.adapterFor? value = found at both ⊢
  generalize registry.adapterFor? (value.under guise) = found' at both ⊢
  cases both with
  | some starts => exact starts
  | none => exact value.cursor_starts

theorem empty_mirrors (value : Value) :
    Mirrors (guise.Links base) id (value.isEmptySequence registry)
      ((value.under guise).isEmptySequence registry) := by
  apply Mirrors.of_get
  intro store store' links
  rw [← Option.not_isSome, ← Option.not_isSome, respects.registered, Value.length_under links]
  dsimp only
  split
  · next length _ => exact .of_bind (.of_except (checkLength length)) fun _ => .of_pure _
  · apply Mirrors.of_bind (respects.elements_start value)
    intro cursor
    apply Mirrors.of_bind cursor.next_advances
    intro following
    cases following <;> exact .of_pure _

theorem falsy_mirrors (value : Value) :
    Mirrors (guise.Links base) id (value.isFalsy registry)
      ((value.under guise).isFalsy registry) := by
  have empty : Mirrors (guise.Links base) id (value.isEmptySequence registry)
      ((value.under guise).isEmptySequence registry) := respects.empty_mirrors value
  unfold Value.isFalsy
  rw [respects.kind_under]
  cases value.kind registry with
  | missing => exact .of_pure true
  | null => exact .of_pure true
  | boolean => cases value <;> exact .of_pure _
  | sequence => exact empty
  | _ => exact .of_pure false

end Registry.Respects

theorem truth_mirrors (value : Value) :
    Mirrors (guise.Links base) id value.truth (value.under guise).truth := by
  apply Mirrors.of_get
  intro store store' links
  rw [Value.is_true_under links]
  exact .of_except (value.isTrue store)

end Iterating

/-- Two states whose stores are linked, and all else in some other way. -/
def Guise.Joins {σ τ : Type} (guise : Guise) (base : Store) (rest : σ → τ → Prop)
    (state : Store × σ) (state' : Store × τ) : Prop :=
  guise.Links base state.1 state'.1 ∧ rest state.2 state'.2

def Placed.under (guise : Guise) (placed : Placed) : Placed :=
  { placed with element := placed.element.under guise }

section Visiting

variable {guise : Guise} {base : Store} {σ τ : Type} {rest : σ → τ → Prop}

theorem Mirrors.of_access {α α' : Type} {image : α → α'} {action : Access α} {other : Access α'}
    (mirrors : Mirrors (guise.Links base) image action other) :
    Mirrors (guise.Joins base rest) image (liftAccess action) (liftAccess other) := by
  rintro ⟨store, first⟩ ⟨store', second⟩ ⟨links, alike⟩
  obtain ⟨same, later⟩ := mirrors store store' links
  exact ⟨same, later, alike⟩

variable {visit : Placed → Run σ Unit} {visit' : Placed → Run τ Unit}
  (each : ∀ placed, Mirrors (guise.Joins base rest) id (visit placed)
    (visit' (placed.under guise)))
include each

theorem visit_from_mirrors (fuel index : Nat) (element : Value) (cursor : Cursor) :
    Mirrors (guise.Joins base rest) id (visitFrom visit fuel index element cursor)
      (visitFrom visit' fuel index (element.under guise) (cursor.under guise)) := by
  induction fuel generalizing index element cursor with
  | zero => exact .of_pure ()
  | succ fuel induction =>
      -- The element is visited once it is known whether another one follows.
      apply Mirrors.of_bind (.of_access cursor.next_advances)
      intro following
      cases following with
      | none => exact .of_bind (each ⟨index, .at index true, true, element⟩) fun _ => .of_pure ()
      | some next =>
          apply Mirrors.of_bind (each ⟨index, .at index false, false, element⟩)
          intro _
          exact induction _ _ _

theorem Value.visit_mirrors {registry : Registry} (respects : registry.Respects guise base)
    (value : Value) :
    Mirrors (guise.Joins base rest) id (value.visit registry visit)
      ((value.under guise).visit registry visit') := by
  apply Mirrors.of_bind (.of_access (respects.elements_start value))
  intro cursor
  apply Mirrors.of_get
  intro state state' joins
  rw [cursor.bound_under joins.1]
  apply Mirrors.of_bind (.of_access cursor.next_advances)
  intro first
  cases first with
  | none => exact .of_pure ()
  | some next => exact visit_from_mirrors each _ _ _ _

end Visiting

end Mustache
