import Mustache.Proofs.Outcome
import Mustache.Value.Iteration

/-!
Actions that stay within some states. From such a state an action comes to another one, and ends
with a good value or an allowed failure; so does a chain of actions.
-/

namespace Mustache

set_option autoImplicit false

variable {σ α β : Type} {steady : σ → Prop} {allowed : Fault → Prop} {good : α → Prop}
  {fine : β → Prop}

def Keeps (steady : σ → Prop) (allowed : Fault → Prop) (good : α → Prop) (action : Action σ α) :
    Prop :=
  ∀ state, steady state → steady (action.run state).2 ∧ Ensures allowed good (action.run state).1

def Never (_ : Fault) : Prop := False

namespace Keeps

theorem of_pure {value : α} (is : good value) :
    Keeps steady allowed good (pure value : Action σ α) := fun _ kept => ⟨kept, is⟩

theorem of_throw {fault : Fault} (may : allowed fault) :
    Keeps steady allowed good (throw fault : Action σ α) := fun _ kept => ⟨kept, may⟩

theorem of_bind {action : Action σ α} {next : α → Action σ β}
    (first : Keeps steady allowed good action)
    (second : ∀ value, good value → Keeps steady allowed fine (next value)) :
    Keeps steady allowed fine (action >>= next) := by
  intro state kept
  obtain ⟨later, ends⟩ := first state kept
  rw [Action.run_bind]
  rcases run : action.run state with ⟨outcome, between⟩
  rw [run] at later ends
  cases outcome with
  | error fault => exact ⟨later, ends⟩
  | ok value => exact second value ends between later

theorem of_get {next : σ → Action σ α}
    (each : ∀ state, steady state → Keeps steady allowed good (next state)) :
    Keeps steady allowed good (get >>= next) := fun state kept => each state kept state kept

theorem weaken {loose : Fault → Prop} {action : Action σ α}
    (keeps : Keeps steady allowed good action) (weaker : ∀ fault, allowed fault → loose fault) :
    Keeps steady loose good action := by
  intro state kept
  obtain ⟨later, ends⟩ := keeps state kept
  refine ⟨later, ?_⟩
  cases outcome : (action.run state).1 with
  | error fault =>
      rw [outcome] at ends
      exact weaker fault ends
  | ok value =>
      rw [outcome] at ends
      exact ends

theorem of_access {store : Store} {action : Access α}
    (keeps : Keeps (· = store) allowed good action) :
    Keeps (fun state => state.1 = store) allowed good (liftAccess action : Run σ α) :=
  fun state kept => keeps state.1 kept

end Keeps

end Mustache
