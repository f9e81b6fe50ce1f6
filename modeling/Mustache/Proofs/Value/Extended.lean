import Mustache.Proofs.Value.Exposed

/-!
Stores that have grown. A value that had all its cells before looks the same in a store with more
of them: cells that are made later are counted from another size, and those are not among its own.
-/

namespace Mustache

set_option autoImplicit false

/-- Cells are added, and those that are there stay as they are. -/
structure Store.Extends (store later : Store) : Prop where
  orders : ∀ cell < store.orders.size, later.orders[cell]? = store.orders[cell]?
  counters : ∀ cell < store.counters.size, later.counters[cell]? = store.counters[cell]?

structure Value.Within (view : View) (store : Store) (value : Value) : Prop where
  orders : ∀ cell, value.Exposes view Value.orderCells cell → cell < store.orders.size
  counters : ∀ cell, value.Exposes view Value.counterCells cell → cell < store.counters.size

theorem Value.within_of_parts {view : View} {store : Store} {value : Value}
    (orders : ∀ cell ∈ value.orderCells, cell < store.orders.size)
    (counters : ∀ cell ∈ value.counterCells, cell < store.counters.size)
    (parts : ∀ part ∈ value.exposed view, part.Within view store) : value.Within view store := by
  constructor
  · rintro cell (here | ⟨member, exposes⟩)
    · exact orders cell here
    · exact (parts _ member).orders cell exposes
  · rintro cell (here | ⟨member, exposes⟩)
    · exact counters cell here
    · exact (parts _ member).counters cell exposes

theorem Value.within_of_leaf {view : View} {store : Store} {value : Value}
    (orders : value.orderCells = []) (counters : value.counterCells = [])
    (parts : value.exposed view = []) : value.Within view store :=
  within_of_parts (by simp [orders]) (by simp [counters]) (by simp [parts])

namespace Store.Extends

variable {α : Type} {store later last : Store}

theorem refl (store : Store) : store.Extends store := ⟨fun _ _ => rfl, fun _ _ => rfl⟩

theorem size_le {table table' : Array α}
    (same : ∀ place < table.size, table'[place]? = table[place]?) : table.size ≤ table'.size := by
  apply Nat.le_of_not_lt
  intro less
  have kept := same table'.size less
  rw [Array.getElem?_eq_none (Nat.le_refl _)] at kept
  exact Nat.not_le_of_lt less (Array.getElem?_eq_none_iff.mp kept.symm)

theorem trans (first : store.Extends later) (second : later.Extends last) :
    store.Extends last := by
  have orders := size_le first.orders
  have counters := size_le first.counters
  constructor
  · intro cell below
    exact (second.orders cell (by omega)).trans (first.orders cell below)
  · intro cell below
    exact (second.counters cell (by omega)).trans (first.counters cell below)

end Store.Extends

section Shifting

/-- Cells that are made in one store, counted from its size, are made in the other from its size. -/
def shift (size size' cell : Nat) : Nat := if cell < size then cell else size' + (cell - size)

theorem shift_injective {size size' : Nat} (grown : size ≤ size') :
    Function.Injective (shift size size') := by
  intro cell other same
  unfold shift at same
  split at same <;> split at same <;> omega

theorem shift_renumbers {α : Type} {table table' : Array α}
    (same : ∀ place < table.size, table'[place]? = table[place]?) :
    Renumbers (shift table.size table'.size) table' table table' := by
  constructor
  · intro place
    unfold shift
    split
    · next below => exact same place below
    · rw [Array.getElem?_eq_none (by omega), Array.getElem?_eq_none (by omega)]
  · intro ahead
    unfold shift
    rw [if_neg (by omega), Nat.add_sub_cancel_left]
  · exact fun _ _ => rfl

variable (view : View) {store later : Store} (extends' : store.Extends later)

/-- The guise of a value in a store that has grown since. -/
def Guise.shifting : Guise where
  toView := view
  order := shift store.orders.size later.orders.size
  counter := shift store.counters.size later.counters.size
  order_injective := shift_injective (Store.Extends.size_le extends'.orders)
  counter_injective := shift_injective (Store.Extends.size_le extends'.counters)

theorem Guise.shifting_links : (Guise.shifting view extends').Links later store later :=
  ⟨shift_renumbers extends'.orders, shift_renumbers extends'.counters⟩

/-- The cells that a value had before keep their numbers. -/
theorem Value.under_shifting (value : Value) (within : value.Within view store) :
    value.under (.shifting view extends') = value.under view.guise := by
  have viewed : (Guise.shifting view extends').toView = view := rfl
  have viewed' : view.guise.toView = view := rfl
  refine under_congr viewed viewed' value (fun cell exposes => ?_) fun cell exposes => ?_
  · exact if_pos (within.orders cell exposes)
  · exact if_pos (within.counters cell exposes)

end Shifting

end Mustache
