import Mustache.Proofs.Action

/-!
What an action can end with, whatever state it starts from: a value that is good or a failure that
is allowed. A chain of actions ends with what one of them may end with.
-/

namespace Mustache

set_option autoImplicit false

variable {σ ε α β : Type} {allowed : ε → Prop} {good : α → Prop} {fine : β → Prop}

def Ensures (allowed : ε → Prop) (good : α → Prop) : Except ε α → Prop
  | .ok value => good value
  | .error failure => allowed failure

def Anything (_ : α) : Prop := True

namespace Ensures

theorem of_bind {result : Except ε α} {next : α → Except ε β}
    (first : Ensures allowed good result)
    (second : ∀ value, good value → Ensures allowed fine (next value)) :
    Ensures allowed fine (result >>= next) := by
  cases result with
  | error failure => exact first
  | ok value => exact second value first

theorem weaken {loose : α → Prop} {result : Except ε α} (ensures : Ensures allowed good result)
    (weaker : ∀ value, good value → loose value) : Ensures allowed loose result := by
  cases result with
  | error failure => exact ensures
  | ok value => exact weaker value ensures

theorem error {result : Except ε α} {failure : ε} (ensures : Ensures allowed good result)
    (failed : result = .error failure) : allowed failure := by
  rw [failed] at ensures
  exact ensures

end Ensures

/-- However an action is started, its result is a good value or an allowed failure. -/
def Upholds (allowed : ε → Prop) (good : α → Prop) (action : ExceptT ε (StateM σ) α) : Prop :=
  ∀ state, Ensures allowed good (action.run state).1

namespace Upholds

theorem of_pure {value : α} (is : good value) :
    Upholds allowed good (pure value : ExceptT ε (StateM σ) α) := fun _ => is

theorem weaken {loose : α → Prop} {action : ExceptT ε (StateM σ) α}
    (upholds : Upholds allowed good action) (weaker : ∀ value, good value → loose value) :
    Upholds allowed loose action := fun state => (upholds state).weaken weaker

theorem of_throw {failure : ε} (may : allowed failure) :
    Upholds allowed good (throw failure : ExceptT ε (StateM σ) α) := fun _ => may

theorem of_except {result : Except ε α} (ensures : Ensures allowed good result) :
    Upholds allowed good (result : ExceptT ε (StateM σ) α) := by
  intro state
  cases result with
  | error failure => exact ensures
  | ok value => exact ensures

theorem of_state {action : StateM σ α} (always : ∀ state, good (action.run state).1) :
    Upholds allowed good (action : ExceptT ε (StateM σ) α) := always

theorem of_bind {action : ExceptT ε (StateM σ) α} {next : α → ExceptT ε (StateM σ) β}
    (first : Upholds allowed good action)
    (second : ∀ value, good value → Upholds allowed fine (next value)) :
    Upholds allowed fine (action >>= next) := by
  intro state
  have firstly := first state
  change Ensures allowed fine (match action.run state with
    | (outcome, later) => ExceptT.bindCont next outcome later).1
  rcases run : action.run state with ⟨outcome, later⟩
  rw [run] at firstly
  cases outcome with
  | error failure => exact firstly
  | ok value => exact second value firstly later

theorem of_try_catch {action : ExceptT ε (StateM σ) α} {handle : ε → ExceptT ε (StateM σ) α}
    (first : Upholds allowed good action)
    (handled : ∀ failure, allowed failure → Upholds allowed good (handle failure)) :
    Upholds allowed good (tryCatch action handle) := by
  intro state
  have firstly := first state
  rw [Action.run_try_catch]
  rcases run : action.run state with ⟨outcome, later⟩
  rw [run] at firstly
  cases outcome with
  | error failure => exact handled failure firstly later
  | ok value => exact firstly

theorem of_get {next : σ → ExceptT ε (StateM σ) α}
    (each : ∀ state, Upholds allowed good (next state)) :
    Upholds allowed good (get >>= next) := fun state => each state state

theorem of_modify {change : σ → σ} {next : PUnit → ExceptT ε (StateM σ) α}
    (after : Upholds allowed good (next ⟨⟩)) :
    Upholds allowed good (modify change >>= next) := fun state => after (change state)

theorem of_set {state : σ} {next : PUnit → ExceptT ε (StateM σ) α}
    (after : Upholds allowed good (next ⟨⟩)) :
    Upholds allowed good (set state >>= next) := fun _ => after state

end Upholds

end Mustache
