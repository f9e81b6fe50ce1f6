import Mustache.Proofs.Render.Guise
import Mustache.Proofs.Value.Exposed

/-!
Attributes that are not public. They make no difference to a rendering, whatever they are and
wherever they are: data that looks the same from outside is rendered the same. Nor are they
evaluated, since a rendering leaves a cell as it is that belongs to nothing but hidden parts.
-/

namespace Mustache

set_option autoImplicit false

section Guised

variable {guise : Guise} {base store store' : Store}

theorem Template.render_to_under (links : guise.Links base store store') {registry : Registry}
    (respects : registry.Respects guise base) (template : Template) (data : Value)
    (written : String) :
    let rendered := template.renderTo registry data written store
    let rendered' := (template.under guise).renderTo registry (data.under guise) written store'
    rendered'.1 = rendered.1 ∧ guise.Links base rendered.2 rendered'.2 := by
  intro rendered rendered'
  have same : rendered = _ := template.render_to_run registry data written store
  have same' : rendered' = _ :=
    (template.under guise).render_to_run registry (data.under guise) written store'
  rw [same, same']
  let setting : Setting := ⟨template.config.options, registry⟩
  have respects : setting.registry.Respects guise base := respects
  exact segments_under links respects template.segments (.root data) written

end Guised

theorem Template.render_to_alike {guise guise' : Guise} {store store' shared : Store}
    (links : guise.Links shared store shared) (links' : guise'.Links shared store' shared)
    {template template' : Template} (same : template.under guise = template'.under guise')
    {data data' : Value} (alike : data.under guise = data'.under guise') {registry : Registry}
    (respects : registry.Respects guise shared) (respects' : registry.Respects guise' shared)
    (written : String) :
    (template.renderTo registry data written store).1 =
      (template'.renderTo registry data' written store').1 := by
  obtain ⟨rendered, _⟩ := template.render_to_under links respects data written
  obtain ⟨rendered', _⟩ := template'.render_to_under links' respects' data' written
  rw [same, alike] at rendered
  exact rendered.symm.trans rendered'

theorem Template.render_to_viewed {registry : Registry} {view : View} {store : Store}
    (respects : registry.Respects view.guise store) (template : Template) (data : Value)
    (written : String) :
    (template.under view.guise).renderTo registry (data.under view.guise) written store =
      template.renderTo registry data written store := by
  obtain ⟨rendered, links⟩ :=
    template.render_to_under (view.links store store) respects data written
  exact Prod.ext rendered (view.eq_of_links links)

section Spreading

/-- Cells below a size stay if they may, all others move up by that size. -/
def spread (size : Nat) (stays : Nat → Bool) (cell : Nat) : Nat :=
  if cell < size ∧ stays cell then cell else size + cell

theorem spread_injective (size : Nat) (stays : Nat → Bool) :
    Function.Injective (spread size stays) := by
  intro cell other same
  unfold spread at same
  split at same <;> split at same <;> omega

theorem spread_beyond {size : Nat} {stays : Nat → Bool} {cell : Nat}
    (moves : stays cell = false) (below : cell < size) (other : Nat) :
    spread size stays other ≠ cell := by
  unfold spread
  split
  · next kept =>
      rintro rfl
      simp [moves] at kept
  · omega

theorem spread_renumbers {α : Type} (stays : Nat → Bool) (table : Array α) :
    Renumbers (spread table.size stays) (table ++ table) table (table ++ table) := by
  constructor
  · intro place
    unfold spread
    split
    · next kept => exact Array.getElem?_append_left kept.1
    · rw [Array.getElem?_append_right (by omega), Nat.add_sub_cancel_left]
  · intro ahead
    unfold spread
    rw [if_neg (by omega), Array.size_append, Nat.add_assoc]
  · exact fun _ _ => rfl

variable (view : View) (store : Store) (orders counters : Nat → Bool)

def Store.twice : Store := ⟨store.orders ++ store.orders, store.counters ++ store.counters⟩

/-- Moves the cells that may not stay to the copy of the store. -/
def Guise.spreading : Guise where
  toView := view
  order := spread store.orders.size orders
  counter := spread store.counters.size counters
  order_injective := spread_injective _ _
  counter_injective := spread_injective _ _

theorem Guise.spreading_links :
    (Guise.spreading view store orders counters).Links store.twice store store.twice :=
  ⟨spread_renumbers orders store.orders, spread_renumbers counters store.counters⟩

/-- Adapters whose cells stay do not see that others move. -/
theorem Registry.KeepsTo.respects_spreading {registry : Registry}
    (keeps : registry.KeepsTo view (fun cell => cell < store.orders.size ∧ orders cell)
      fun cell => cell < store.counters.size ∧ counters cell) :
    registry.Respects (.spreading view store orders counters) store.twice :=
  keeps (.spreading view store orders counters) store.twice rfl (fun _ kept => if_pos kept)
    fun _ kept => if_pos kept

structure Value.Stays (value : Value) : Prop where
  orders : ∀ cell, value.Exposes view Value.orderCells cell → orders cell = true
  counters : ∀ cell, value.Exposes view Value.counterCells cell → counters cell = true

end Spreading

/-- Of the cells that exist, a rendering changes none that is exposed to it nowhere. The cells are
moved out of the way, and what is rendered then leaves their places alone. -/
theorem Template.render_to_spares {holds : Value → Prop} {view : View} {store : Store}
    (orders counters : Nat → Bool)
    (quiet : ∀ value, holds value → value.Stays view orders counters) {template : Template}
    (fixed : template.Each holds) {data : Value} (stays : holds data) {registry : Registry}
    (keeps : registry.KeepsTo view (fun cell => cell < store.orders.size ∧ orders cell)
      fun cell => cell < store.counters.size ∧ counters cell)
    (written : String) :
    let later := (template.renderTo registry data written store).2
    (∀ cell < store.orders.size, orders cell = false → later.orders[cell]? = store.orders[cell]?) ∧
      ∀ cell < store.counters.size, counters cell = false →
        later.counters[cell]? = store.counters[cell]? := by
  intro later
  let all (_ : Nat) : Bool := true
  let moving := Guise.spreading view store orders counters
  let staying := Guise.spreading view store all all
  have viewed : moving.toView = view := rfl
  have viewed' : staying.toView = view := rfl
  have each (value : Value) (holding : holds value) : value.under moving = value.under staying := by
    refine under_congr viewed viewed' value (fun cell exposes => ?_) fun cell exposes => ?_
    · simp only [moving, staying, Guise.spreading, spread,
        (quiet value holding).orders cell exposes, all]
    · simp only [moving, staying, Guise.spreading, spread,
        (quiet value holding).counters cell exposes, all]
  have steady : registry.Respects staying store.twice := by
    apply Registry.KeepsTo.respects_spreading
    refine fun guise base shown orders counters => keeps guise base shown ?_ ?_
    · exact fun cell kept => orders cell ⟨kept.1, rfl⟩
    · exact fun cell kept => counters cell ⟨kept.1, rfl⟩
  obtain ⟨_, moved⟩ := template.render_to_under
    (Guise.spreading_links view store orders counters) (keeps.respects_spreading) data written
  obtain ⟨_, stayed⟩ := template.render_to_under
    (Guise.spreading_links view store all all) steady data written
  rw [template_under_congr each fixed, each data stays] at moved
  constructor
  · intro cell below moves
    have same := stayed.orders.same cell
    have spared := moved.orders.spared cell (spread_beyond moves below)
    have kept : staying.order cell = cell := if_pos ⟨below, rfl⟩
    rw [kept] at same
    rw [← same, spared]
    exact Array.getElem?_append_left below
  · intro cell below moves
    have same := stayed.counters.same cell
    have spared := moved.counters.spared cell (spread_beyond moves below)
    have kept : staying.counter cell = cell := if_pos ⟨below, rfl⟩
    rw [kept] at same
    rw [← same, spared]
    exact Array.getElem?_append_left below

end Mustache
