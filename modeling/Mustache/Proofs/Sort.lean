import Mustache.Proofs.Outcome
import Mustache.Sort

/-!
How a sort may fail: as one of its comparisons does, and in no other way. Searching and merging
compare items and do nothing else that may fail.
-/

namespace Mustache.Sort

set_option autoImplicit false

variable {α ε : Type} {allowed : ε → Prop}

theorem negated_ensures {answer : Except ε Bool} (ensures : Ensures allowed Anything answer) :
    Ensures allowed Anything (do return !(← answer) : Except ε Bool) :=
  .of_bind ensures fun _ _ => trivial

section Search

variable {passes : Nat → Except ε Bool}
  (each : ∀ place, Ensures allowed Anything (passes place))
include each

theorem bisect_ensures (fuel low high : Nat) :
    Ensures allowed Anything (bisect passes fuel low high) := by
  induction fuel generalizing low high with
  | zero => trivial
  | succ fuel induction =>
      unfold bisect
      split
      · apply Ensures.of_bind (each _)
        intro passed _
        split
        · exact induction _ _
        · exact induction _ _
      · trivial

theorem stride_ensures (limit fuel last next : Nat) :
    Ensures allowed Anything (stride passes limit fuel last next) := by
  induction fuel generalizing last next with
  | zero => trivial
  | succ fuel induction =>
      unfold stride
      split
      · apply Ensures.of_bind (each _)
        intro passed _
        split
        · exact induction _ _
        · trivial
      · trivial

theorem gallop_ensures (size hint : Nat) :
    Ensures allowed Anything (gallop passes size hint) := by
  unfold gallop
  apply Ensures.of_bind (each _)
  intro passed _
  split
  · apply Ensures.of_bind (stride_ensures (fun step => each (hint + step)) _ _ _ _)
    intro strides _
    exact bisect_ensures each _ _ _
  · apply Ensures.of_bind
      (stride_ensures (fun step => negated_ensures (each (hint - step))) _ _ _ _)
    intro strides _
    exact bisect_ensures each _ _ _

end Search

theorem at_place_ensures {test : α → Except ε Bool}
    (each : ∀ item, Ensures allowed Anything (test item)) (items : Array α) (place : Nat) :
    Ensures allowed Anything (match items[place]? with
      | some item => test item
      | none => .ok false : Except ε Bool) := by
  cases items[place]? with
  | none => trivial
  | some item => exact each item

def Merged.Keeps (allowed : ε → Prop) (merged : Merged α ε) : Prop :=
  ∀ failure, merged.failure = some failure → allowed failure

namespace Merge

def Asks (allowed : ε → Prop) (merge : Merge α ε) : Prop :=
  ∀ item other, Ensures allowed Anything (merge.wins item other)

theorem finish_keeps (merge : Merge α ε) (left : List α) :
    (merge.finish left none).Keeps allowed := nofun

variable {merge : Merge α ε}

theorem ask_ensures {β : Type} {answer : Except ε β} (ensures : Ensures allowed Anything answer) :
    Ensures (Merged.Keeps allowed) Anything (merge.ask answer) := by
  cases answer with
  | ok _ => trivial
  | error failure =>
      rintro _ ⟨⟩
      exact ensures

section Asking

variable (asks : merge.Asks allowed)
include asks

theorem take_long_ensures (count : Nat) :
    Ensures (Merged.Keeps allowed) (Asks allowed) (merge.takeLong count) := by
  unfold takeLong
  dsimp only
  split
  · exact finish_keeps _ _
  · exact asks

theorem take_short_ensures (count : Nat) :
    Ensures (Merged.Keeps allowed) (Asks allowed) (merge.takeShort count) := by
  unfold takeShort
  dsimp only
  split
  · exact finish_keeps _ _
  · exact finish_keeps _ _
  · exact asks

end Asking

theorem single_ensures (fuel shortRow longRow : Nat) (asks : merge.Asks allowed) :
    Ensures (Merged.Keeps allowed) (Asks allowed) (single fuel shortRow longRow merge) := by
  induction fuel generalizing shortRow longRow merge with
  | zero => exact asks
  | succ fuel induction =>
      unfold single
      split
      · apply Ensures.of_bind (ask_ensures (asks _ _))
        intro wins _
        split
        · apply Ensures.of_bind (take_long_ensures asks 1)
          intro next asks
          split
          · exact asks
          · exact induction _ _ asks
        · apply Ensures.of_bind (take_short_ensures asks 1)
          intro next asks
          split
          · exact asks
          · exact induction _ _ asks
      · exact asks

theorem row_ensures {test : α → Except ε Bool}
    (each : ∀ item, Ensures allowed Anything (test item)) (items : List α) :
    Ensures allowed Anything (merge.row test items) := by
  have holds (place : Nat) := at_place_ensures each items.toArray place
  unfold row
  dsimp only
  split
  · exact gallop_ensures holds _ _
  · apply Ensures.of_bind
      (gallop_ensures (fun place => negated_ensures (holds (items.toArray.size - 1 - place))) _ _)
    intro before _
    exact trivial

section Rows

variable (asks : merge.Asks allowed)
include asks

theorem take_short_row_ensures :
    Ensures (Merged.Keeps allowed) (fun taken => taken.2.Asks allowed) merge.takeShortRow := by
  unfold takeShortRow
  split
  · exact asks
  · apply Ensures.of_bind (ask_ensures (row_ensures
      (fun item => negated_ensures (asks _ item)) _))
    intro count _
    split
    · exact asks
    · exact .of_bind (take_short_ensures asks count) fun _ asks => asks

theorem take_long_row_ensures :
    Ensures (Merged.Keeps allowed) (fun taken => taken.2.Asks allowed) merge.takeLongRow := by
  unfold takeLongRow
  split
  · exact asks
  · apply Ensures.of_bind (ask_ensures (row_ensures (fun other => asks other _) _))
    intro count _
    split
    · exact asks
    · exact .of_bind (take_long_ensures asks count) fun _ asks => asks

theorem rows_ensures :
    Ensures (Merged.Keeps allowed) (fun taken => taken.2.2.Asks allowed) merge.rows := by
  unfold rows
  split
  · apply Ensures.of_bind (take_short_row_ensures asks)
    intro taken asks
    apply Ensures.of_bind (take_long_ensures asks 1)
    intro merge asks
    apply Ensures.of_bind (take_long_row_ensures asks)
    intro taken asks
    exact .of_bind (take_short_ensures asks 1) fun _ asks => asks
  · apply Ensures.of_bind (take_long_row_ensures asks)
    intro taken asks
    apply Ensures.of_bind (take_short_ensures asks 1)
    intro merge asks
    apply Ensures.of_bind (take_short_row_ensures asks)
    intro taken asks
    exact .of_bind (take_long_ensures asks 1) fun _ asks => asks

end Rows

theorem search_ensures (fuel : Nat) (asks : merge.Asks allowed) :
    Ensures (Merged.Keeps allowed) (Asks allowed) (search fuel merge) := by
  induction fuel generalizing merge with
  | zero => exact asks
  | succ fuel induction =>
      unfold search
      have lowered : Asks allowed { merge with patience := max 1 (merge.patience - 1) } := asks
      apply Ensures.of_bind (rows_ensures lowered)
      intro taken asks
      dsimp only
      split
      · exact induction asks
      · exact asks

theorem rounds_ensures (fuel : Nat) (asks : merge.Asks allowed) :
    Ensures (Merged.Keeps allowed) (Asks allowed) (rounds fuel merge) := by
  induction fuel generalizing merge with
  | zero => exact asks
  | succ fuel induction =>
      unfold rounds
      apply Ensures.of_bind (single_ensures _ 0 0 asks)
      intro merge asks
      have raised : Asks allowed { merge with patience := merge.patience + 1 } := asks
      apply Ensures.of_bind (search_ensures _ raised)
      intro merge asks
      exact induction asks

-- The end of a merge is a failure of its steps, and what is kept is said of failures.
theorem run_keeps (asks : merge.Asks allowed) : merge.run.Keeps allowed := by
  have steps : Ensures (Merged.Keeps allowed) (Asks allowed) (do
      let next ← merge.takeLong 1
      let next ← next.takeShort 0
      rounds (merge.short.length + merge.long.length) next) := by
    apply Ensures.of_bind (take_long_ensures asks 1)
    intro next asks
    apply Ensures.of_bind (take_short_ensures asks 0)
    intro next asks
    exact rounds_ensures _ asks
  unfold run
  dsimp only
  split
  · exact finish_keeps _ _
  · next merged ended => exact steps.error ended

end Merge

section Sorting

variable {less : α → α → Except ε Bool}
  (asks : ∀ item other, Ensures allowed Anything (less item other))
include asks

theorem merge_runs_keeps (patience : Nat) (first second : List α) :
    (mergeRuns less patience first second).Keeps allowed := by
  have unchanged (failure : Option ε) (may : ∀ fault, failure = some fault → allowed fault) :
      (Merged.mk (first ++ second) patience failure).Keeps allowed := may
  unfold mergeRuns
  dsimp only
  cases second with
  | nil => exact unchanged none nofun
  | cons head tail =>
      have early := gallop_ensures (at_place_ensures (fun item =>
        negated_ensures (asks head item)) first.toArray) first.length 0
      dsimp only
      split
      · next failure failed =>
          rintro _ ⟨⟩
          exact early.error failed
      · split
        · exact unchanged none nofun
        · next last _ =>
            have late := gallop_ensures (at_place_ensures (fun item => asks item last)
              (head :: tail).toArray) (head :: tail).length ((head :: tail).length - 1)
            split
            · next failure failed =>
                rintro _ ⟨⟩
                exact late.error failed
            · exact unchanged none nofun
            · apply Merge.run_keeps
              split
              · exact asks
              · exact fun item other => asks other item

theorem run_length_ensures (falling : Bool) (last : α) (items : List α) :
    Ensures allowed Anything (runLength less falling last items) := by
  induction items generalizing last with
  | nil => trivial
  | cons item rest induction =>
      unfold runLength
      apply Ensures.of_bind (asks _ _)
      intro before _
      split
      · exact .of_bind (induction _) fun _ _ => trivial
      · trivial

theorem first_run_ensures (items : List α) : Ensures allowed Anything (firstRun less items) := by
  unfold firstRun
  split
  · apply Ensures.of_bind (asks _ _)
    intro falling _
    exact .of_bind (run_length_ensures asks _ _ _) fun _ _ => trivial
  · trivial

theorem insert_each_keeps (sorted later : List α) :
    ∀ failure, (insertEach less sorted later).2 = some failure → allowed failure := by
  induction later generalizing sorted with
  | nil => nofun
  | cons item later induction =>
      have found := bisect_ensures (at_place_ensures (fun other =>
        negated_ensures (asks item other)) sorted.toArray) sorted.toArray.size 0 sorted.toArray.size
      unfold insertEach
      dsimp only
      split
      · next failure failed =>
          rintro _ ⟨⟩
          exact found.error failed
      · exact induction _

omit asks in
theorem or_fail_upholds {failure : Option ε}
    (may : ∀ fault, failure = some fault → allowed fault) :
    Upholds allowed Anything (orFail failure : Work α ε Unit) := by
  cases failure with
  | none => exact .of_pure trivial
  | some fault => exact .of_throw (may fault rfl)

theorem join_runs_upholds (later : List (Run α)) (second first : Run α) (earlier : List (Run α)) :
    Upholds allowed Anything (joinRuns less later second first earlier) := by
  apply Upholds.of_get
  intro pile
  apply Upholds.of_set
  exact or_fail_upholds (merge_runs_keeps asks _ _ _)

theorem join_deeper_upholds (depth fuel : Nat) :
    Upholds allowed Anything (joinDeeper less depth fuel) := by
  induction fuel with
  | zero => exact .of_pure trivial
  | succ fuel induction =>
      apply Upholds.of_get
      intro pile
      split
      · split
        · exact .of_bind (join_runs_upholds asks _ _ _ _) fun _ _ => induction
        · exact .of_pure trivial
      · exact .of_pure trivial

theorem settle_runs_upholds (size length : Nat) :
    Upholds allowed Anything (settleRuns less size length) := by
  apply Upholds.of_get
  intro pile
  split
  · exact .of_pure trivial
  · exact .of_bind (join_deeper_upholds asks _ _) fun _ _ => .of_state fun _ => trivial

theorem take_run_upholds (size full : Nat) :
    Upholds allowed Anything (takeRun less size full) := by
  apply Upholds.of_get
  intro pile
  apply Upholds.of_bind (.of_except (first_run_ensures asks pile.rest))
  intro run _
  apply Upholds.of_modify
  apply Upholds.of_bind (or_fail_upholds (insert_each_keeps asks _ _))
  intro _ _
  exact .of_bind (settle_runs_upholds asks _ _) fun _ _ => .of_state fun _ => trivial

theorem take_runs_upholds (size full fuel : Nat) :
    Upholds allowed Anything (takeRuns less size full fuel) := by
  induction fuel with
  | zero => exact .of_pure trivial
  | succ fuel induction =>
      apply Upholds.of_get
      intro pile
      split
      · exact .of_pure trivial
      · exact .of_bind (take_run_upholds asks _ _) fun _ _ => induction

theorem join_all_upholds (fuel : Nat) : Upholds allowed Anything (joinAll less fuel) := by
  induction fuel with
  | zero => exact .of_pure trivial
  | succ fuel induction =>
      apply Upholds.of_get
      intro pile
      split
      · split
        · exact .of_bind (join_runs_upholds asks _ _ _ _) fun _ _ => induction
        · exact .of_bind (join_runs_upholds asks _ _ _ _) fun _ _ => induction
      · exact join_runs_upholds asks _ _ _ _
      · exact .of_pure trivial

theorem sort_keeps (items : List α) :
    ∀ failure, (sort less items).2 = some failure → allowed failure := by
  let work : Work α ε Unit := do
    takeRuns less items.length (fullLength items.length items.length 0) items.length
    joinAll less items.length
  have upholds : Upholds allowed Anything work :=
    .of_bind (take_runs_upholds asks _ _ _) fun _ _ => join_all_upholds asks _
  have started := upholds ⟨[], items, longRow⟩
  intro failure failed
  unfold sort at failed
  dsimp only at failed
  split at failed
  · cases failed
  · next run =>
      cases failed
      exact started.error (congrArg Prod.fst run)

end Sorting

end Mustache.Sort
