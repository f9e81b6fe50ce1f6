import Mustache.Value.Lookup

/-!
Values in another guise. A guise gives other numbers to the cells and leaves out the attributes of
objects that do not show; those with public names always do. All else about a value stays as it is.
Two stores are linked by a guise if each cell holds in one what it holds in the other under its new
number, and if cells that are still to be made will be numbered alike.
-/

namespace Mustache

set_option autoImplicit false

/-- Which attributes of objects show. -/
structure View where
  shows : String → Bool
  shows_public : ∀ name, isPublicName name = true → shows name = true

structure Guise extends View where
  order : Nat → Nat
  counter : Nat → Nat
  order_injective : Function.Injective order
  counter_injective : Function.Injective counter

mutual
def Value.under (guise : Guise) : Value → Value
  | .float x cell => .float x (guise.counter cell)
  | .decimal x cell => .decimal x (guise.counter cell)
  | .complex real imaginary cell => .complex real imaginary (guise.counter cell)
  | .buffer content cell => .buffer content (guise.order cell)
  | .tuple items => .tuple (underEach guise items)
  | .set items => .set (underEach guise items)
  | .list items cell => .list (underEach guise items) (guise.order cell)
  | .mapping form entries => .mapping form (underEntries guise entries)
  | .stream items failure cell => .stream (underEach guise items) failure (guise.counter cell)
  | .array derived items cell => .array derived (underEach guise items) (guise.counter cell)
  | .routine callee => .routine (underRoutine guise callee)
  | .object host => .object (underHost guise host)
  | value => value
  termination_by structural value => value
def underEach (guise : Guise) : List Value → List Value
  | [] => []
  | item :: rest => item.under guise :: underEach guise rest
  termination_by structural items => items
def underEntries (guise : Guise) : List (Value × Value) → List (Value × Value)
  | [] => []
  | (key, value) :: rest => (key.under guise, value.under guise) :: underEntries guise rest
  termination_by structural entries => entries
def underOutcome (guise : Guise) : Outcome Value → Outcome Value
  | .returns result => .returns (result.under guise)
  | .counts => .counts
  | .raises fault => .raises fault
  termination_by structural outcome => outcome
def underRoutine (guise : Guise) : Routine Value → Routine Value
  | ⟨cell, params, outcome, claimed⟩ =>
      ⟨guise.counter cell, params, underOutcome guise outcome, claimed⟩
  termination_by structural callee => callee
def underMember (guise : Guise) : Member Value → Member Value
  | .plain value => .plain (value.under guise)
  | .static callee => .static (underRoutine guise callee)
  | .classLevel callee => .classLevel (underRoutine guise callee)
  | .property getter => .property (underRoutine guise getter)
  termination_by structural member => member
def underNamed (guise : Guise) : List (String × Value) → List (String × Value)
  | [] => []
  | (name, value) :: rest =>
      if guise.shows name then (name, value.under guise) :: underNamed guise rest
      else underNamed guise rest
  termination_by structural named => named
def underMembers (guise : Guise) : List (String × Member Value) → List (String × Member Value)
  | [] => []
  | (name, member) :: rest =>
      if guise.shows name then (name, underMember guise member) :: underMembers guise rest
      else underMembers guise rest
  termination_by structural members => members
def underItems (guise : Guise) : Option (List Value) → Option (List Value)
  | none => none
  | some items => some (underEach guise items)
  termination_by structural items => items
def underReplacing (guise : Guise) : Option (Routine Value) → Option (Routine Value)
  | none => none
  | some replace => some (underRoutine guise replace)
  termination_by structural replacing => replacing
def underHost (guise : Guise) : HostObject Value → HostObject Value
  | ⟨cell, own, members, fallback, items, indexed, length, quoted, text, replacing⟩ =>
      { cell := guise.counter cell
        own := underNamed guise own
        members := underMembers guise members
        fallback := underNamed guise fallback
        items := underItems guise items
        indexed := underItems guise indexed
        length := length
        quoted := quoted
        text := text
        replacing := underReplacing guise replacing }
  termination_by structural host => host
end

section Parts

variable (guise : Guise)

@[simp] theorem under_each_eq (items : List Value) :
    underEach guise items = items.map (Value.under guise) := by
  induction items with
  | nil => rfl
  | cons item rest induction => simp only [underEach, List.map_cons, induction]

@[simp] theorem under_entries_eq (entries : List (Value × Value)) :
    underEntries guise entries =
      entries.map (Prod.map (Value.under guise) (Value.under guise)) := by
  induction entries with
  | nil => rfl
  | cons entry rest induction => simp only [underEntries, List.map_cons, induction, Prod.map]

@[simp] theorem under_items_eq (items : Option (List Value)) :
    underItems guise items = items.map (List.map (Value.under guise)) := by
  cases items <;> simp [underItems]

@[simp] theorem under_replacing_eq (replacing : Option (Routine Value)) :
    underReplacing guise replacing = replacing.map (underRoutine guise) := by
  cases replacing <;> rfl

section Fields

variable (callee : Routine Value) (host : HostObject Value)

@[simp] theorem under_routine_cell :
    (underRoutine guise callee).cell = guise.counter callee.cell := by
  cases callee; rfl

@[simp] theorem under_routine_params : (underRoutine guise callee).params = callee.params := by
  cases callee; rfl

@[simp] theorem under_routine_claimed : (underRoutine guise callee).claimed = callee.claimed := by
  cases callee; rfl

@[simp] theorem under_host_cell : (underHost guise host).cell = guise.counter host.cell := by
  cases host; rfl

@[simp] theorem under_host_own : (underHost guise host).own = underNamed guise host.own := by
  cases host; rfl

@[simp] theorem under_host_members :
    (underHost guise host).members = underMembers guise host.members := by
  cases host; rfl

@[simp] theorem under_host_fallback :
    (underHost guise host).fallback = underNamed guise host.fallback := by
  cases host; rfl

@[simp] theorem under_host_items : (underHost guise host).items = underItems guise host.items := by
  cases host; rfl

@[simp] theorem under_host_indexed :
    (underHost guise host).indexed = underItems guise host.indexed := by
  cases host; rfl

@[simp] theorem under_host_length : (underHost guise host).length = host.length := by
  cases host; rfl

@[simp] theorem under_host_quoted : (underHost guise host).quoted = host.quoted := by
  cases host; rfl

@[simp] theorem under_host_text : (underHost guise host).text = host.text := by
  cases host; rfl

@[simp] theorem under_host_replacing :
    (underHost guise host).replacing = underReplacing guise host.replacing := by
  cases host; rfl

end Fields

theorem under_named_eq (named : List (String × Value)) :
    underNamed guise named =
      (named.filter (guise.shows ·.1)).map (Prod.map id (Value.under guise)) := by
  induction named with
  | nil => rfl
  | cons entry rest induction =>
      obtain ⟨name, value⟩ := entry
      cases shown : guise.shows name <;> simp [underNamed, shown, induction]

theorem under_members_eq (members : List (String × Member Value)) :
    underMembers guise members =
      (members.filter (guise.shows ·.1)).map (Prod.map id (underMember guise)) := by
  induction members with
  | nil => rfl
  | cons entry rest induction =>
      obtain ⟨name, member⟩ := entry
      cases shown : guise.shows name <;> simp [underMembers, shown, induction]

theorem lookup_kept {α β : Type} {keeps : String → Bool} {name : String}
    (kept : keeps name = true) (image : α → β) (named : List (String × α)) :
    ((named.filter (keeps ·.1)).map (Prod.map id image)).lookup name =
      (named.lookup name).map image := by
  induction named with
  | nil => rfl
  | cons entry rest induction =>
      obtain ⟨other, value⟩ := entry
      by_cases same : name = other
      · subst same
        simp [kept]
      · have passed : (name == other) = false := beq_false_of_ne same
        cases keeping : keeps other <;> simp [List.lookup_cons, keeping, passed, induction]

variable {guise} {name : String} (shown : guise.shows name = true)
include shown

theorem lookup_under_named (named : List (String × Value)) :
    (underNamed guise named).lookup name = (named.lookup name).map (Value.under guise) := by
  rw [under_named_eq, lookup_kept shown]

theorem lookup_under_members (members : List (String × Member Value)) :
    (underMembers guise members).lookup name = (members.lookup name).map (underMember guise) := by
  rw [under_members_eq, lookup_kept shown]

end Parts

/-- What stands at a place of one table stands in the other at the place that the first is renamed
to, and what is added to both of them will, too. Places that none is renamed to are as in `base`. -/
structure Renumbers {α : Type} (rename : Nat → Nat) (base table table' : Array α) : Prop where
  same : ∀ place : Nat, table'[rename place]? = table[place]?
  next : ∀ ahead, rename (table.size + ahead) = table'.size + ahead
  spared : ∀ place : Nat, (∀ other, rename other ≠ place) → table'[place]? = base[place]?

namespace Renumbers

variable {α : Type} {rename : Nat → Nat} {base table table' : Array α}

theorem set (renumbers : Renumbers rename base table table') (injective : Function.Injective rename)
    (place : Nat) (item : α) :
    Renumbers rename base (table.setIfInBounds place item)
      (table'.setIfInBounds (rename place) item) := by
  constructor
  · intro other
    have bounds : rename place < table'.size ↔ place < table.size := by
      rw [← Decidable.not_iff_not, Nat.not_lt, Nat.not_lt, ← Array.getElem?_eq_none_iff,
        renumbers.same, Array.getElem?_eq_none_iff]
    rw [Array.getElem?_setIfInBounds, Array.getElem?_setIfInBounds, renumbers.same]
    simp only [injective.eq_iff, bounds]
  · intro ahead
    rw [Array.size_setIfInBounds, Array.size_setIfInBounds]
    exact renumbers.next ahead
  · intro other untouched
    rw [Array.getElem?_setIfInBounds_ne (untouched place)]
    exact renumbers.spared other untouched

theorem push (renumbers : Renumbers rename base table table')
    (injective : Function.Injective rename) (item : α) :
    Renumbers rename base (table.push item) (table'.push item) := by
  have last : rename table.size = table'.size := renumbers.next 0
  constructor
  · intro place
    rw [Array.getElem?_push, Array.getElem?_push, renumbers.same, ← last]
    simp only [injective.eq_iff]
  · intro ahead
    have further := renumbers.next (1 + ahead)
    rw [Array.size_push, Array.size_push, Nat.add_assoc, Nat.add_assoc]
    exact further
  · intro place untouched
    have other : place ≠ table'.size := fun same => untouched table.size (last.trans same.symm)
    rw [Array.getElem?_push, if_neg other]
    exact renumbers.spared place untouched

theorem of_same (base table : Array α) : Renumbers id base table table :=
  ⟨fun _ => rfl, fun _ => rfl, fun place untouched => (untouched place rfl).elim⟩

theorem eq_of_same (renumbers : Renumbers id base table table') : table' = table :=
  Array.ext_getElem? renumbers.same

end Renumbers

theorem Store.held_map {α β : Type} (store : Store) (image : α → β) (items : List α) (cell : Nat) :
    store.held (items.map image) cell = (store.held items cell).map image := by
  unfold Store.held
  rw [List.map_filterMap]
  simp

namespace Guise

structure Links (guise : Guise) (base store store' : Store) : Prop where
  orders : Renumbers guise.order base.orders store.orders store'.orders
  counters : Renumbers guise.counter base.counters store.counters store'.counters

namespace Links

variable {guise : Guise} {base store store' : Store}

theorem order (links : guise.Links base store store') (cell : Nat) :
    store'.order (guise.order cell) = store.order cell := by
  unfold Store.order
  rw [Array.getD_eq_getD_getElem?, Array.getD_eq_getD_getElem?, links.orders.same]

theorem counter (links : guise.Links base store store') (cell : Nat) :
    store'.counter (guise.counter cell) = store.counter cell := by
  unfold Store.counter
  rw [Array.getD_eq_getD_getElem?, Array.getD_eq_getD_getElem?, links.counters.same]

theorem set_order (links : guise.Links base store store') (cell : Nat) (order : Array Nat) :
    guise.Links base (store.setOrder cell order) (store'.setOrder (guise.order cell) order) :=
  ⟨links.orders.set guise.order_injective cell order, links.counters⟩

theorem set_counter (links : guise.Links base store store') (cell count : Nat) :
    guise.Links base (store.setCounter cell count)
      (store'.setCounter (guise.counter cell) count) :=
  ⟨links.orders, links.counters.set guise.counter_injective cell count⟩

theorem held {α : Type} (links : guise.Links base store store') (items : List α) (cell : Nat) :
    store'.held items (guise.order cell) = store.held items cell := by
  unfold Store.held
  rw [links.order]

end Links

@[simp] theorem counter_beq (guise : Guise) (cell other : Nat) :
    (guise.counter cell == guise.counter other) = (cell == other) := by
  rw [Bool.eq_iff_iff, beq_iff_eq, beq_iff_eq, guise.counter_injective.eq_iff]

end Guise

namespace View

def outside : View := ⟨isPublicName, fun _ isPublic => isPublic⟩

def whole : View := ⟨fun _ => true, fun _ _ => rfl⟩

variable (view : View)

def guise : Guise where
  toView := view
  order := id
  counter := id
  order_injective := Function.injective_id
  counter_injective := Function.injective_id

theorem links (base store : Store) : view.guise.Links base store store :=
  ⟨.of_same base.orders store.orders, .of_same base.counters store.counters⟩

theorem eq_of_links {base store store' : Store} (links : view.guise.Links base store store') :
    store' = store := by
  obtain ⟨orders, counters⟩ := store
  obtain ⟨orders', counters'⟩ := store'
  rw [Store.mk.injEq]
  exact ⟨links.orders.eq_of_same, links.counters.eq_of_same⟩

end View

mutual
theorem Value.under_whole (value : Value) : value.under View.whole.guise = value := by
  match value with
  | .tuple items => exact congrArg Value.tuple (under_each_whole items)
  | .set items => exact congrArg Value.set (under_each_whole items)
  | .list items cell => exact congrArg (Value.list · cell) (under_each_whole items)
  | .mapping form entries => exact congrArg (Value.mapping form) (under_entries_whole entries)
  | .stream items failure cell =>
      exact congrArg (Value.stream · failure cell) (under_each_whole items)
  | .array derived items cell =>
      exact congrArg (Value.array derived · cell) (under_each_whole items)
  | .routine callee => exact congrArg Value.routine (under_routine_whole callee)
  | .object host => exact congrArg Value.object (under_host_whole host)
  | .missing | .null | .bool _ | .int _ | .float _ _ | .decimal _ _ | .fraction _ _
  | .complex _ _ _ | .text _ | .octets _ | .buffer _ _ | .date _ _ _ | .range _ _ _ => rfl
  termination_by structural value
theorem under_each_whole (items : List Value) : underEach View.whole.guise items = items := by
  match items with
  | [] => rfl
  | item :: rest => rw [underEach, Value.under_whole item, under_each_whole rest]
  termination_by structural items
theorem under_entries_whole (entries : List (Value × Value)) :
    underEntries View.whole.guise entries = entries := by
  match entries with
  | [] => rfl
  | (key, value) :: rest =>
      rw [underEntries, Value.under_whole key, Value.under_whole value, under_entries_whole rest]
  termination_by structural entries
theorem under_outcome_whole (outcome : Outcome Value) :
    underOutcome View.whole.guise outcome = outcome := by
  match outcome with
  | .returns result => exact congrArg Outcome.returns (Value.under_whole result)
  | .counts | .raises _ => rfl
  termination_by structural outcome
theorem under_routine_whole (callee : Routine Value) :
    underRoutine View.whole.guise callee = callee := by
  match callee with
  | ⟨cell, params, outcome, claimed⟩ =>
      exact congrArg (Routine.mk cell params · claimed) (under_outcome_whole outcome)
  termination_by structural callee
theorem under_member_whole (member : Member Value) :
    underMember View.whole.guise member = member := by
  match member with
  | .plain value => exact congrArg Member.plain (Value.under_whole value)
  | .static callee => exact congrArg Member.static (under_routine_whole callee)
  | .classLevel callee => exact congrArg Member.classLevel (under_routine_whole callee)
  | .property getter => exact congrArg Member.property (under_routine_whole getter)
  termination_by structural member
theorem under_named_whole (named : List (String × Value)) :
    underNamed View.whole.guise named = named := by
  match named with
  | [] => rfl
  | (name, value) :: rest =>
      change (name, value.under _) :: underNamed _ rest = _
      rw [Value.under_whole value, under_named_whole rest]
  termination_by structural named
theorem under_members_whole (members : List (String × Member Value)) :
    underMembers View.whole.guise members = members := by
  match members with
  | [] => rfl
  | (name, member) :: rest =>
      change (name, underMember _ member) :: underMembers _ rest = _
      rw [under_member_whole member, under_members_whole rest]
  termination_by structural members
theorem under_items_whole (items : Option (List Value)) :
    underItems View.whole.guise items = items := by
  match items with
  | none => rfl
  | some items => exact congrArg some (under_each_whole items)
  termination_by structural items
theorem under_replacing_whole (replacing : Option (Routine Value)) :
    underReplacing View.whole.guise replacing = replacing := by
  match replacing with
  | none => rfl
  | some replace => exact congrArg some (under_routine_whole replace)
  termination_by structural replacing
theorem under_host_whole (host : HostObject Value) : underHost View.whole.guise host = host := by
  match host with
  | ⟨cell, own, members, fallback, items, indexed, length, quoted, text, replacing⟩ =>
      rw [underHost, under_named_whole own, under_members_whole members,
        under_named_whole fallback, under_items_whole items, under_items_whole indexed,
        under_replacing_whole replacing]
      rfl
  termination_by structural host
end

end Mustache
