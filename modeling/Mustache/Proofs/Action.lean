import Mustache.Fault

/-!
Running an action that may change a state and may fail. Compiling, looking into values and
rendering are such actions; they differ in the state only. What the state has become when a fault
ends an action stays.
-/

namespace Mustache

set_option autoImplicit false

abbrev Action (σ α : Type) := ExceptT Fault (StateM σ) α

namespace Action

variable {σ ε α β : Type}

theorem same_of_runs {first second : Action σ α}
    (same : ∀ state, first.run state = second.run state) : first = second := funext same

theorem run_bind (action : ExceptT ε (StateM σ) α) (next : α → ExceptT ε (StateM σ) β) (state : σ) :
    (action >>= next).run state =
      match action.run state with
      | (.ok value, later) => (next value).run later
      | (.error failure, later) => (.error failure, later) := by
  change (match action.run state with
    | (outcome, later) => ExceptT.bindCont next outcome later) = _
  rcases action.run state with ⟨outcome, later⟩
  cases outcome <;> rfl

theorem run_bind_ok {action : ExceptT ε (StateM σ) α} {next : α → ExceptT ε (StateM σ) β}
    {state later : σ} {value : α}
    (first : action.run state = (.ok value, later)) :
    (action >>= next).run state = (next value).run later := by
  rw [run_bind, first]

theorem run_bind_error {action : ExceptT ε (StateM σ) α} {next : α → ExceptT ε (StateM σ) β}
    {state later : σ} {failure : ε} (first : action.run state = (.error failure, later)) :
    (action >>= next).run state = (.error failure, later) := by
  rw [run_bind, first]

theorem of_bind_ok {action : ExceptT ε (StateM σ) α} {next : α → ExceptT ε (StateM σ) β}
    {state last : σ} {value : β}
    (succeeds : (action >>= next).run state = (.ok value, last)) :
    ∃ first later, action.run state = (.ok first, later) ∧
      (next first).run later = (.ok value, last) := by
  rw [run_bind] at succeeds
  rcases run : action.run state with ⟨outcome, later⟩
  rw [run] at succeeds
  cases outcome with
  | ok first => exact ⟨first, later, rfl, succeeds⟩
  | error failure => cases succeeds

theorem run_try_catch (action : ExceptT ε (StateM σ) α)
    (handle : ε → ExceptT ε (StateM σ) α) (state : σ) :
    (tryCatch action handle).run state =
      match action.run state with
      | (.ok value, later) => (.ok value, later)
      | (.error failure, later) => (handle failure).run later := by
  change (match action.run state with
    | (outcome, later) => (match outcome with
      | .ok value => pure (.ok value)
      | .error failure => (handle failure).run : StateM σ (Except ε α)) later) = _
  rcases action.run state with ⟨outcome, later⟩
  cases outcome <;> rfl

end Action

theorem except_of_bind_ok {α β : Type} {result : Except Fault α} {next : α → Except Fault β}
    {value : β} (succeeds : result >>= next = .ok value) :
    ∃ first, result = .ok first ∧ next first = .ok value := by
  cases result with
  | error fault => cases succeeds
  | ok first => exact ⟨first, rfl, succeeds⟩

theorem except_of_is_ok {ε α : Type} {result : Except ε α} (succeeds : result.isOk = true) :
    ∃ value, result = .ok value := by
  cases result with
  | error failure => cases succeeds
  | ok value => exact ⟨value, rfl⟩

theorem except_of_to_option {ε α : Type} {result : Except ε α} {value : α}
    (same : result.toOption = some value) : result = .ok value := by
  cases result with
  | error failure => cases same
  | ok first => exact congrArg Except.ok (Option.some.inj same)

def faultOf {α : Type} : Except Fault α → Option Fault
  | .ok _ => none
  | .error fault => some fault

theorem fault_of_eq_some {α : Type} {result : Except Fault α} {fault : Fault} :
    faultOf result = some fault ↔ result = .error fault := by
  cases result <;> simp [faultOf]

theorem fault_of_map {α β : Type} (result : Except Fault α) (change : α → β) :
    faultOf (result.map change) = faultOf result := by
  cases result <;> rfl

end Mustache
