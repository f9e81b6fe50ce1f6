import Mustache.Proofs.Template.Delivery
import Mustache.Proofs.Template.Table

/-!
When compiling ends. The levels that a loader allows for are then not used up, and it does not
matter what would be done inside of the innermost.
-/

namespace Mustache

set_option autoImplicit false

/-- Compiling ends: the innermost of the levels that a loader allows for is not gone into, so that
it does not matter what would be done there. -/
def Config.Ends (config : Config) (chain : List String) (source : Source) : Prop :=
  ∀ bottom, (compileOver config bottom (config.loader.depth + 1) chain source).run [] =
    (compileLevels config (config.loader.depth + 1) chain source).run []

/-- Leaves a mark in the journal where the innermost level is gone into. -/
def markedBottom (mark : Event) (_ : List String) (_ : Source) : Compile (List Segment) := do
  record mark
  throw (.load .tooDeep none)

/-- The innermost level has been gone into. What fails there may be told of as something else, when
a stream around it cannot be closed, but the mark stays. -/
def Strays {α : Type} (mark : Event) (run : Except Fault α × Journal) : Prop :=
  (∃ fault, run.1 = .error fault) ∧ mark ∈ run.2

/-- Either the first action goes into the innermost level, or the second does the same. -/
def Steady {α : Type} (mark : Event) (action other : Compile α) : Prop :=
  ∀ journal, Strays mark (action.run journal) ∨ other.run journal = action.run journal

theorem Strays.then_close {α : Type} {mark : Event} {action : Compile α} {journal : Journal}
    (strays : Strays mark (action.run journal)) (request : Nat) (failure : Option Fault) :
    Strays mark ((thenClose action request failure).run journal) := by
  obtain ⟨⟨fault, failed⟩, marked⟩ := strays
  rw [then_close_run]
  refine ⟨?_, List.mem_append_left _ marked⟩
  cases failure with
  | none => exact ⟨fault, failed⟩
  | some other => exact ⟨other, rfl⟩

theorem Strays.bind {α β : Type} {mark : Event} {action : Compile α} {journal : Journal}
    (strays : Strays mark (action.run journal)) (next : α → Compile β) :
    Strays mark ((action >>= next).run journal) := by
  obtain ⟨⟨fault, failed⟩, marked⟩ := strays
  rw [Action.run_bind]
  rcases run : action.run journal with ⟨outcome, later⟩
  rw [run] at failed marked
  dsimp only at failed
  subst failed
  exact ⟨⟨fault, rfl⟩, marked⟩

namespace Steady

variable {α β : Type} {mark : Event}

theorem same (action : Compile α) : Steady mark action action := fun _ => .inr rfl

theorem of_bind {action other : Compile α} {next next' : α → Compile β}
    (first : Steady mark action other) (second : ∀ value, Steady mark (next value) (next' value)) :
    Steady mark (action >>= next) (other >>= next') := by
  intro journal
  rcases first journal with strays | alike
  · exact .inl (strays.bind next)
  · rw [Action.run_bind, Action.run_bind, alike]
    rcases action.run journal with ⟨outcome, later⟩
    cases outcome with
    | ok value => exact second value later
    | error fault => exact .inr rfl

theorem of_then_close {action other : Compile α} (request : Nat) (failure : Option Fault)
    (inner : Steady mark action other) :
    Steady mark (thenClose action request failure) (thenClose other request failure) := by
  intro journal
  rcases inner journal with strays | alike
  · exact .inl (strays.then_close request failure)
  · right
    rw [then_close_run, then_close_run, alike]

theorem of_include {loader : Loader}
    {compile compile' : List String → Source → Compile (List Segment)}
    (inner : ∀ chain source, Steady mark (compile chain source) (compile' chain source))
    (chain : List String) (name : String) :
    Steady mark (includeWith loader compile chain name)
      (includeWith loader compile' chain name) := by
  unfold includeWith
  dsimp only
  split
  · exact .same _
  · apply of_bind (.same _)
    intro journal
    apply of_bind (.same _)
    intro source
    cases source with
    | text content => exact of_bind (.same _) fun _ => inner _ _
    | stream pieces failure closing =>
        apply of_bind (.same _)
        intro _
        exact of_bind (.same _) fun _ => of_then_close _ closing (inner _ _)

theorem of_assemble {config : Config} {included included' : String → Compile (List Segment)}
    (inner : ∀ name, Steady mark (included name) (included' name)) (assembly : Assembly)
    (tokens : List Token) :
    Steady mark (assemble config included assembly tokens)
      (assemble config included' assembly tokens) := by
  induction tokens generalizing assembly with
  | nil => exact .same _
  | cons token tokens induction =>
      refine of_bind ?_ fun next => induction next
      cases token with
      | text content => exact .same _
      | tag tag line =>
          cases tag with
          | inclusion name => exact of_bind (inner name) fun _ => .same _
          | interpolation | opening | closing | comment | directive => exact .same _

theorem of_levels (config : Config) (bottom : List String → Source → Compile (List Segment))
    (levels : Nat) (chain : List String) (source : Source) :
    Steady mark (compileOver config (markedBottom mark) levels chain source)
      (compileOver config bottom levels chain source) := by
  induction levels generalizing chain source with
  | zero => exact fun journal => .inl ⟨⟨_, rfl⟩, List.mem_append_right _ (.head _)⟩
  | succ levels induction =>
      exact of_bind (of_assemble (of_include induction chain) .empty source.scan.tokens)
        fun _ => .same _

end Steady

/-- Compiling ends if a mark in the innermost level does not show. -/
theorem Config.ends_of_unmarked {config : Config} {chain : List String} {source : Source}
    (mark : Event)
    (unmarked : mark ∉ ((compileOver config (markedBottom mark) (config.loader.depth + 1) chain
      source).run []).2) :
    config.Ends chain source := by
  intro bottom
  rw [compile_levels_eq_over]
  have same (bottom : List String → Source → Compile (List Segment)) :=
    (Steady.of_levels config bottom (config.loader.depth + 1) chain source []).resolve_left
      fun strays => unmarked strays.2
  exact (same bottom).trans (same _).symm

end Mustache
