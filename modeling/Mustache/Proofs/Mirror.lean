import Mustache.Proofs.Action

/-!
Two actions side by side. They start from states that are linked in some way; the results are then
one the image of the other, faults are the same, and the states are linked again. A chain of
actions is the mirror of another one if each of them is.
-/

namespace Mustache

set_option autoImplicit false

variable {σ τ α β α' β' : Type} {link : σ → τ → Prop} {image : α → α'} {further : β → β'}

/-- From linked states, the second action comes to the image of what the first one comes to, and
leaves linked states. -/
def Mirrors (link : σ → τ → Prop) (image : α → α') (action : Action σ α) (other : Action τ α') :
    Prop :=
  ∀ state state', link state state' →
    (other.run state').1 = (action.run state).1.map image ∧
      link (action.run state).2 (other.run state').2

namespace Mirrors

theorem of_pure (value : α) : Mirrors link image (pure value) (pure (image value)) :=
  fun _ _ linked => ⟨rfl, linked⟩

theorem of_throw (fault : Fault) : Mirrors link image (throw fault) (throw fault) :=
  fun _ _ linked => ⟨rfl, linked⟩

theorem of_except (result : Except Fault α) :
    Mirrors link id (result : Action σ α) (result : Action τ α) := by
  cases result with
  | error fault => exact of_throw fault
  | ok value => exact of_pure value

theorem of_bind {action : Action σ α} {other : Action τ α'} {next : α → Action σ β}
    {next' : α' → Action τ β'} (first : Mirrors link image action other)
    (second : ∀ value, Mirrors link further (next value) (next' (image value))) :
    Mirrors link further (action >>= next) (other >>= next') := by
  intro state state' linked
  obtain ⟨same, later⟩ := first state state' linked
  rw [Action.run_bind, Action.run_bind]
  rcases run : action.run state with ⟨outcome, between⟩
  rcases run' : other.run state' with ⟨outcome', between'⟩
  rw [run, run'] at later
  rw [run, run'] at same
  dsimp only at same
  subst same
  cases outcome with
  | error fault => exact ⟨rfl, later⟩
  | ok value => exact second value between between' later

theorem of_try_catch {action : Action σ α} {other : Action τ α'} {handle : Fault → Action σ α}
    {handle' : Fault → Action τ α'} (first : Mirrors link image action other)
    (handled : ∀ fault, Mirrors link image (handle fault) (handle' fault)) :
    Mirrors link image (tryCatch action handle) (tryCatch other handle') := by
  intro state state' linked
  obtain ⟨same, later⟩ := first state state' linked
  rw [Action.run_try_catch, Action.run_try_catch]
  rcases run : action.run state with ⟨outcome, between⟩
  rcases run' : other.run state' with ⟨outcome', between'⟩
  rw [run, run'] at later
  rw [run, run'] at same
  dsimp only at same
  subst same
  cases outcome with
  | error fault => exact handled fault between between' later
  | ok value => exact ⟨rfl, later⟩

theorem of_get {next : σ → Action σ α} {next' : τ → Action τ α'}
    (each : ∀ state state', link state state' → Mirrors link image (next state) (next' state')) :
    Mirrors link image (get >>= next) (get >>= next') :=
  fun state state' linked => each state state' linked state state' linked

theorem of_modify {change : σ → σ} {change' : τ → τ} {next : PUnit → Action σ α}
    {next' : PUnit → Action τ α'}
    (changed : ∀ state state', link state state' → link (change state) (change' state'))
    (after : Mirrors link image (next ⟨⟩) (next' ⟨⟩)) :
    Mirrors link image (modify change >>= next) (modify change' >>= next') :=
  fun state state' linked => after _ _ (changed state state' linked)

theorem of_set {state : σ} {state' : τ} {next : PUnit → Action σ α} {next' : PUnit → Action τ α'}
    (linked : link state state') (after : Mirrors link image (next ⟨⟩) (next' ⟨⟩)) :
    Mirrors link image (set state >>= next) (set state' >>= next') :=
  fun _ _ _ => after state state' linked

theorem of_state {action : StateM σ α} {other : StateM τ α'}
    (each : ∀ state state', link state state' →
      (other.run state').1 = image (action.run state).1 ∧
        link (action.run state).2 (other.run state').2) :
    Mirrors link image (action : Action σ α) (other : Action τ α') := by
  intro state state' linked
  obtain ⟨same, later⟩ := each state state' linked
  exact ⟨congrArg Except.ok same, later⟩

end Mirrors

end Mustache
