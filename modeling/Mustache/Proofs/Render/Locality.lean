import Mustache.Proofs.Render.Guise
import Mustache.Proofs.Value.Extended

/-!
Rendering in a store that has grown. What the data, the options and the template expose is in the
store from the start, so that cells made since then make no difference to what is written.
-/

namespace Mustache

set_option autoImplicit false

variable {view : View} {store later : Store}

def Scope.Within (view : View) (store : Store) (scope : Scope) : Prop :=
  ∀ frame ∈ scope.frame :: scope.enclosing, frame.data.Within view store

theorem Scope.under_shifting (extends' : store.Extends later) {scope : Scope}
    (within : scope.Within view store) :
    scope.under (.shifting view extends') = scope.under view.guise := by
  have frames : ∀ frame ∈ scope.frame :: scope.enclosing,
      frame.under (.shifting view extends') = frame.under view.guise := by
    intro frame member
    simp only [Frame.under, Value.under_shifting view extends' _ (within frame member)]
  obtain ⟨first, others⟩ := List.forall_mem_cons.mp frames
  simp only [Scope.under, first, List.map_congr_left others]

/-- Rendering the same in a store that has grown writes the same and ends the same. -/
theorem segments_local {setting : Setting} {scope : Scope} {segments : List Segment}
    (extends' : store.Extends later)
    (keeps : setting.registry.KeepsTo view (· < store.orders.size) (· < store.counters.size))
    (framed : scope.Within view store) (options : setting.options.Each (Value.Within view store))
    (flags : Segment.EverywhereAll (Segment.Flag (Value.Within view store)) segments)
    (written : String) :
    let action := renderSegments setting scope segments
    (Rendering.ofRun (action.run (later, written))).1 =
      (Rendering.ofRun (action.run (store, written))).1 := by
  intro action
  have steady : setting.registry.Respects (.shifting view extends') later :=
    keeps (.shifting view extends') later rfl (fun _ below => if_pos below)
      fun _ below => if_pos below
  obtain ⟨moved, _⟩ := segments_under (Guise.shifting_links view extends') steady segments scope
    written
  obtain ⟨stayed, _⟩ := segments_under (view.links later later) (keeps.respects later) segments
    scope written
  -- Both runs are in the larger store, and no cell that they know of is among those that move.
  have each := fun value => Value.under_shifting view extends' value
  have same : setting.under (.shifting view extends') = setting.under view.guise := by
    simp only [Setting.under, options_under_congr each options]
  rw [same, scope.under_shifting extends' framed, segments_under_congr each flags] at moved
  exact stayed.symm.trans moved

end Mustache
