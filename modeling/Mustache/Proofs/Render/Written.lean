import Mustache.Proofs.Action
import Mustache.Proofs.Segment
import Mustache.Proofs.Text.Escape
import Mustache.Render

/-!
What rendering writes. However an action ends, it leaves what was written before and adds to it, so
what may be added by each part of a template may be added by the whole.
-/

namespace Mustache

set_option autoImplicit false

structure Joinable (allowed : List Char → Prop) : Prop where
  empty : allowed []
  join : ∀ {first second}, allowed first → allowed second → allowed (first ++ second)

theorem inert_joinable : Joinable Text.Inert :=
  ⟨Text.inert_of_plain (by simp), Text.Inert.append⟩

/-- What an action adds to the text written before, whether it fails or not, is allowed. -/
def Writes {α : Type} (allowed : List Char → Prop) (action : Run String α) : Prop :=
  ∀ store written, ∃ out, allowed out ∧
    (action.run (store, written)).2.2.toList = written.toList ++ out

def Returns {σ α : Type} (action : Run σ α) (value : α) : Prop :=
  ∃ state later, action.run state = (.ok value, later)

namespace Writes

variable {α β : Type} {allowed : List Char → Prop}

theorem of_write {text : String} (fits : allowed text.toList) : Writes allowed (write text) :=
  fun _ _ => ⟨text.toList, fits, String.toList_append⟩

section Joined

variable (joinable : Joinable allowed)
include joinable

/-- An action that leaves the text as it is writes nothing. -/
theorem of_quiet {action : Run String α} (quiet : ∀ state, (action.run state).2.2 = state.2) :
    Writes allowed action := by
  intro store written
  refine ⟨[], joinable.empty, ?_⟩
  rw [quiet, List.append_nil]

theorem of_pure (value : α) : Writes allowed (pure value) := of_quiet joinable fun _ => rfl

theorem of_access (action : Access α) : Writes allowed (liftAccess action) :=
  of_quiet joinable fun _ => rfl

theorem of_get : Writes allowed (get : Run String (Store × String)) :=
  of_quiet joinable fun _ => rfl

theorem of_bind {action : Run String α} {next : α → Run String β}
    (first : Writes allowed action)
    (second : ∀ value, Returns action value → Writes allowed (next value)) :
    Writes allowed (action >>= next) := by
  intro store written
  obtain ⟨out, fits, added⟩ := first store written
  rw [Action.run_bind]
  rcases run : action.run (store, written) with ⟨outcome, between, middle⟩
  rw [run] at added
  cases outcome with
  | error fault => exact ⟨out, fits, added⟩
  | ok value =>
      obtain ⟨more, fits', added'⟩ := second value ⟨_, _, run⟩ between middle
      refine ⟨out ++ more, joinable.join fits fits', ?_⟩
      dsimp only at added ⊢
      rw [added', added, List.append_assoc]

theorem of_lift_text (text : Store → Except Fault String) : Writes allowed (liftText text) := by
  apply of_bind joinable (of_get joinable)
  intro state _
  cases text state.1 with
  | ok text => exact of_pure joinable text
  | error fault => exact of_quiet joinable fun _ => rfl

end Joined

end Writes

def Rendering.ofRun (run : Except Fault Unit × Store × String) : Rendering × Store :=
  (⟨run.2.2, faultOf run.1⟩, run.2.1)

theorem Template.render_to_run (template : Template) (registry : Registry) (data : Value)
    (written : String) (store : Store) :
    template.renderTo registry data written store =
      Rendering.ofRun ((renderSegments ⟨template.config.options, registry⟩ (.root data)
        template.segments).run (store, written)) := by
  unfold Template.renderTo
  dsimp only
  rcases (renderSegments ⟨template.config.options, registry⟩ (.root data)
    template.segments).run (store, written) with ⟨outcome, later, text⟩
  cases outcome <;> rfl

/-- What has been written is kept whether rendering fails or not. -/
theorem Template.render_to_written (template : Template) (registry : Registry) (data : Value)
    (written : String) (store : Store) :
    (template.renderTo registry data written store).1.written =
      ((renderSegments ⟨template.config.options, registry⟩ (.root data)
        template.segments).run (store, written)).2.2 := by
  rw [Template.render_to_run]
  rfl

end Mustache
