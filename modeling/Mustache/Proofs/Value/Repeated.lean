import Mustache.Proofs.Value.Compared
import Mustache.Proofs.Value.Extended

/-!
Iterating again. A value that is not used up comes to the same elements every time, and nothing is
changed by iterating over it. A visit of it is then nothing but a walk along a list.
-/

namespace Mustache

set_option autoImplicit false

theorem run_lift_access {σ α : Type} (action : Access α) (store : Store) (rest : σ) :
    (liftAccess action : Run σ α).run (store, rest) =
      ((action.run store).1, (action.run store).2, rest) := rfl

/-- From every steady store the action comes to this value, and to a store that is steady again. If
it is to be still, that is the same store. -/
def Answers {α : Type} (steady : Store → Prop) (still : Prop) (action : Access α) (value : α) :
    Prop :=
  ∀ store, steady store →
    ∃ later, action.run store = (.ok value, later) ∧ steady later ∧ (still → later = store)

/-- From a cursor come these items, whenever each of them is asked for. -/
inductive Cursor.Yields (steady : Store → Prop) (still : Prop) : Cursor → List Value → Prop where
  | done {cursor : Cursor} (ends : Answers steady still cursor.next none) :
      Yields steady still cursor []
  | more {cursor rest : Cursor} {item : Value} {items : List Value}
      (gives : Answers steady still cursor.next (some (item, rest)))
      (others : Yields steady still rest items) : Yields steady still cursor (item :: items)

/-- Whenever the value is iterated over, it comes to these elements. A length that counts for it is
the number of them. -/
structure Value.Repeats (registry : Registry) (steady : Store → Prop) (still : Prop)
    (value : Value) (items : List Value) : Prop where
  elements : ∃ cursor, Answers steady still (value.elements registry) cursor ∧
    cursor.Yields steady still items
  length : registry.adapterFor? value = none → ∀ store, steady store →
    ∀ length ∈ value.length? store, checkLength length = .ok items.length

def placeFrom (index : Nat) : List Value → List Placed
  | [] => []
  | item :: rest =>
      ⟨index, .at index rest.isEmpty, rest.isEmpty, item⟩ :: placeFrom (index + 1) rest

/-- Whatever has been added to `base` before, the cells that are there then are left as they are. -/
def Quiet {σ α : Type} (base : Store) (action : Run σ α) : Prop :=
  ∀ store rest, base.Extends store → store.Extends (action.run (store, rest)).2.1

namespace Answers

variable {α β : Type} {steady narrow : Store → Prop} {still : Prop} {action : Access α} {value : α}
  {store : Store}

theorem of_pure (value : α) : Answers steady still (pure value) value :=
  fun store start => ⟨store, rfl, start, fun _ => rfl⟩

theorem of_bind {next : α → Access β} {result : β} (first : Answers steady still action value)
    (second : Answers steady still (next value) result) :
    Answers steady still (action >>= next) result := by
  intro store start
  obtain ⟨between, run, steady', same⟩ := first store start
  obtain ⟨later, run', ends, same'⟩ := second between steady'
  refine ⟨later, ?_, ends, fun is => (same' is).trans (same is)⟩
  rw [Action.run_bind, run]
  exact run'

theorem run_still (answers : Answers steady True action value) (start : steady store) :
    action.run store = (.ok value, store) := by
  obtain ⟨later, run, _, same⟩ := answers store start
  rw [run, same trivial]

theorem narrowed (answers : Answers steady True action value)
    (within : ∀ store, narrow store → steady store) : Answers narrow True action value :=
  fun store start => ⟨store, answers.run_still (within store start), start, fun _ => rfl⟩

end Answers

namespace Cursor

variable {base store later : Store} {cursor rest : Cursor} {item : Value} {items : List Value}

theorem there_of_read {α : Type} {contents : Array α} {cell place : Nat}
    {give : α → Value × Cursor} {found : Value × Cursor}
    (run : ((.ok ((itemAt? store contents cell place).map give), store) :
      Except Fault (Option (Value × Cursor)) × Store) = (.ok (some found), later)) :
    ∃ content, found = give content ∧ place < (store.order cell).size := by
  have read : (itemAt? store contents cell place).map give = some found :=
    Except.ok.inj (congrArg Prod.fst run)
  obtain ⟨content, stands, rfl⟩ := Option.map_eq_some_iff.mp read
  obtain ⟨index, there, _⟩ := Option.bind_eq_some_iff.mp stands
  exact ⟨content, rfl, (Array.getElem?_eq_some_iff.mp there).1⟩

/-- Room for one more counter at least. -/
theorem extends_counters (store : Store) (more : Array Nat) :
    store.Extends { store with counters := store.counters ++ more } :=
  ⟨fun _ _ => rfl, fun _ below => Array.getElem?_append_left below⟩

theorem stream_step (contents : Array Value) (failure : Option Fault) (cell : Nat)
    (store : Store) :
    (Cursor.stream contents failure cell).next.run store =
      match contents[store.counter cell]?, failure with
      | some item, _ => (.ok (some (item, .stream contents failure cell)),
          store.setCounter cell (store.counter cell + 1))
      | none, some fault => (.error fault, store)
      | none, none => (.ok none, store) := by
  change (match contents[store.counter cell]?, failure with
    | some item, _ => (do
        modify fun (later : Store) => later.setCounter cell (store.counter cell + 1)
        return some (item, .stream contents failure cell) : Access (Option (Value × Cursor)))
    | none, some fault => throw fault
    | none, none => return none).run store = _
  split <;> rfl

theorem stream_leaves_trace {contents : Array Value} {failure : Option Fault} {cell : Nat}
    {found : Value × Cursor}
    (gives : Answers base.Extends True (Cursor.stream contents failure cell).next (some found)) :
    False := by
  let store : Store := { base with counters := base.counters ++ Array.replicate (cell + 1) 0 }
  have run := gives.run_still (extends_counters base (Array.replicate (cell + 1) 0))
  have below : cell < store.counters.size := by
    simp only [store, Array.size_append, Array.size_replicate]
    omega
  rw [stream_step] at run
  split at run
  · have same : store.setCounter cell (store.counter cell + 1) = store := congrArg Prod.snd run
    have counted : (store.setCounter cell (store.counter cell + 1)).counter cell =
        store.counter cell + 1 := by
      simp [Store.counter, Store.setCounter, below]
    rw [same] at counted
    omega
  · cases run
  · cases run

/-- Behind an item there is less to come than before it, if the place in the cursor tells. Then it
makes no difference what reading the item has done to the store. -/
theorem bound_lt_or_stream (run : cursor.next.run store = (.ok (some (item, rest)), later)) :
    (rest.bound store < cursor.bound store ∧ rest.bound later = rest.bound store) ∨
      ∃ contents failure cell, cursor = .stream contents failure cell ∧
        store.counter cell < contents.size := by
  cases cursor with
  | fixed items =>
      cases items with
      | nil => cases run
      | cons first items =>
          cases run
          exact .inl ⟨Nat.lt_succ_self _, rfl⟩
  | list contents cell place =>
      obtain ⟨_, same, below⟩ := there_of_read run
      cases same
      cases congrArg Prod.snd run
      refine .inl ⟨?_, rfl⟩
      dsimp only [bound]
      omega
  | buffer contents cell place =>
      obtain ⟨_, same, below⟩ := there_of_read run
      cases same
      cases congrArg Prod.snd run
      refine .inl ⟨?_, rfl⟩
      dsimp only [bound]
      omega
  | stream contents failure cell =>
      refine .inr ⟨contents, failure, cell, rfl, ?_⟩
      rw [stream_step] at run
      split at run
      · next there => exact (Array.getElem?_eq_some_iff.mp there).1
      · cases run
      · cases run
  | counting next step left =>
      cases left with
      | zero => cases run
      | succ left =>
          cases run
          exact .inl ⟨Nat.lt_succ_self _, rfl⟩
  | asked host left =>
      cases left with
      | zero => cases run
      | succ left =>
          obtain ⟨first, between, _, given⟩ := Action.of_bind_ok run
          cases given
          exact .inl ⟨Nat.lt_succ_self _, rfl⟩

theorem bound_pos (run : cursor.next.run store = (.ok (some (item, rest)), later)) :
    0 < cursor.bound store := by
  rcases bound_lt_or_stream run with ⟨less, _⟩ | ⟨contents, failure, cell, rfl, below⟩
  · exact Nat.zero_lt_of_lt less
  · exact Nat.sub_pos_of_lt below

theorem bound_lt (gives : Answers base.Extends True cursor.next (some (item, rest))) :
    rest.bound base < cursor.bound base := by
  rcases bound_lt_or_stream (gives.run_still (.refl base)) with ⟨less, _⟩ | ⟨_, _, _, rfl, _⟩
  · exact less
  · exact (stream_leaves_trace gives).elim

theorem Yields.of_fixed (steady : Store → Prop) (still : Prop) (items : List Value) :
    (Cursor.fixed items).Yields steady still items := by
  induction items with
  | nil => exact .done (.of_pure none)
  | cons item items induction => exact .more (.of_pure _) induction

theorem Yields.narrowed {steady narrow : Store → Prop} (yields : cursor.Yields steady True items)
    (within : ∀ store, narrow store → steady store) : cursor.Yields narrow True items := by
  induction yields with
  | done ends => exact .done (ends.narrowed within)
  | more gives _ induction => exact .more (gives.narrowed within) induction

theorem Yields.reads {steady : Store → Prop} {still : Prop}
    (yields : cursor.Yields steady still items) :
    ∃ found, Answers steady still cursor.next found := by
  cases yields with
  | done ends => exact ⟨_, ends⟩
  | more gives _ => exact ⟨_, gives⟩

theorem Yields.length_le (yields : cursor.Yields base.Extends True items) :
    items.length ≤ cursor.bound base := by
  induction yields with
  | done _ => exact Nat.zero_le _
  | more gives _ induction => exact Nat.lt_of_le_of_lt induction (bound_lt gives)

end Cursor

section Visiting

variable {σ : Type} {base : Store} {visit : Placed → Run σ Unit}

theorem visit_from_yields {cursor : Cursor} {items : List Value}
    (yields : cursor.Yields base.Extends True items) {fuel index : Nat} {element : Value}
    (enough : items.length < fuel)
    (quiet : ∀ placed ∈ placeFrom index (element :: items), Quiet base (visit placed))
    {store : Store} (grown : base.Extends store) (rest : σ) :
    (visitFrom visit fuel index element cursor).run (store, rest) =
      ((placeFrom index (element :: items)).forM visit).run (store, rest) := by
  induction yields generalizing fuel index element store rest with
  | done ends =>
      obtain ⟨fuel, rfl⟩ := Nat.exists_eq_succ_of_ne_zero (Nat.ne_of_gt enough)
      rw [visitFrom, Action.run_bind, run_lift_access, ends.run_still grown]
      rfl
  | more gives others induction =>
      obtain ⟨fuel, rfl⟩ := Nat.exists_eq_succ_of_ne_zero (Nat.ne_of_gt (Nat.zero_lt_of_lt enough))
      rw [visitFrom, Action.run_bind, run_lift_access, gives.run_still grown]
      -- The visit may add cells, so what is left to read is read in a store that has grown.
      let placed : Placed := ⟨index, .at index false, false, element⟩
      change (visit placed >>= fun _ => visitFrom visit fuel (index + 1) _ _).run (store, rest) =
        (visit placed >>= fun _ => (placeFrom (index + 1) (_ :: _)).forM visit).run (store, rest)
      obtain ⟨first, further⟩ := List.forall_mem_cons.mp quiet
      have kept : store.Extends ((visit placed).run (store, rest)).2.1 := first store rest grown
      rw [Action.run_bind, Action.run_bind]
      rcases run : (visit placed).run (store, rest) with ⟨outcome, later, after⟩
      cases outcome with
      | error fault => rfl
      | ok _ =>
          rw [run] at kept
          exact induction (Nat.lt_of_succ_lt_succ enough) further (grown.trans kept) after

theorem visit_first {registry : Registry} {value : Value} {cursor : Cursor}
    {store between later : Store} {first : Option (Value × Cursor)}
    (starts : (value.elements registry).run store = (.ok cursor, between)) (rest : σ) :
    cursor.next.run between = (.ok first, later) →
      (value.visit registry visit).run (store, rest) =
        (match first with
          | none => pure ()
          | some (element, next) => visitFrom visit (cursor.bound between) 1 element next :
            Run σ Unit).run (later, rest) := by
  intro reads
  unfold Value.visit
  rw [Action.run_bind, run_lift_access, starts]
  change (liftAccess cursor.next >>= fun first => match first with
    | none => pure ()
    | some (element, next) => visitFrom visit (cursor.bound between) 1 element next).run
      (between, rest) = _
  rw [Action.run_bind, run_lift_access, reads]

theorem Value.Repeats.visit_run {registry : Registry} {value : Value} {items : List Value}
    (repeats : value.Repeats registry base.Extends True items)
    (quiet : ∀ placed ∈ placeFrom 1 items, Quiet base (visit placed)) {store : Store}
    (grown : base.Extends store) (rest : σ) :
    (value.visit registry visit).run (store, rest) =
      ((placeFrom 1 items).forM visit).run (store, rest) := by
  obtain ⟨cursor, starts, yields⟩ := repeats.elements
  have enough := (yields.narrowed fun _ further => grown.trans further).length_le
  cases yields with
  | done ends =>
      rw [visit_first (starts.run_still grown) rest (ends.run_still grown)]
      rfl
  | more gives others =>
      rw [visit_first (starts.run_still grown) rest (gives.run_still grown)]
      exact visit_from_yields others enough quiet grown rest

end Visiting

/-- Both the length and the first element, whichever is asked for, tell whether there are
elements. -/
theorem Value.Repeats.empty_answers {registry : Registry} {steady : Store → Prop} {still : Prop}
    {value : Value} {items : List Value} (repeats : value.Repeats registry steady still items) :
    Answers steady still (value.isEmptySequence registry) items.isEmpty := by
  have probed : Answers steady still (do return (← (← value.elements registry).next).isNone)
      items.isEmpty := by
    obtain ⟨cursor, starts, yields⟩ := repeats.elements
    apply starts.of_bind
    cases yields with
    | done ends => exact ends.of_bind (.of_pure _)
    | more gives others => exact gives.of_bind (.of_pure _)
  intro store start
  rw [Value.empty_run]
  cases adapted : registry.adapterFor? value with
  | some adapter => exact probed store start
  | none =>
      cases measured : value.length? store with
      | none => exact probed store start
      | some length =>
          have counted := repeats.length adapted store start length measured
          refine ⟨store, ?_, start, fun _ => rfl⟩
          change (do return (← checkLength length) == 0 : Access Bool).run store = _
          rw [counted]
          cases items <;> rfl

theorem Value.tuple_repeats (steady : Store → Prop) (still : Prop) {items : List Value}
    (short : items.length ≤ lengthLimit) :
    (Value.tuple items).Repeats .none steady still items := by
  refine ⟨⟨.fixed items, .of_pure _, .of_fixed steady still items⟩, ?_⟩
  rintro _ store _ _ ⟨⟩
  exact check_length_short short

end Mustache
