import Mathlib.Data.List.Basic
import Mustache.Proofs.Value.Repeated

/-!
The places of elements. An element is delivered once it is known whether another one follows, so
that a sequence is always read one element ahead of what is done with it. Whoever visits the
elements may change the store meanwhile, as long as the sequence comes to the same elements.
-/

namespace Mustache

set_option autoImplicit false

/-- Read from a store to the end, the cursor brings these items and then ends or fails, in a store
that is `final`. Between two readings the store may change in the ways allowed `meanwhile`. -/
inductive Cursor.Brings (meanwhile : Store → Store → Prop) (final : Store → Prop) :
    Cursor → Store → List Value → Option Fault → Prop where
  | ends {cursor : Cursor} {store later : Store}
      (reads : cursor.next.run store = (.ok none, later)) (last : final later) :
      Brings meanwhile final cursor store [] none
  | fails {cursor : Cursor} {store later : Store} {fault : Fault}
      (reads : cursor.next.run store = (.error fault, later)) (last : final later) :
      Brings meanwhile final cursor store [] (some fault)
  | more {cursor rest : Cursor} {store later : Store} {item : Value} {items : List Value}
      {failure : Option Fault}
      (reads : cursor.next.run store = (.ok (some (item, rest)), later))
      (others : ∀ after, meanwhile later after →
        Brings meanwhile final rest after items failure) :
      Brings meanwhile final cursor store (item :: items) failure

/-- What comes of iterating over a value; it may also be refused from the start. -/
inductive Value.Brings (registry : Registry) (meanwhile : Store → Store → Prop)
    (final : Store → Prop) (value : Value) (store : Store) :
    List Value → Option Fault → Prop where
  | read {cursor : Cursor} {between : Store} {items : List Value} {failure : Option Fault}
      (starts : (value.elements registry).run store = (.ok cursor, between))
      (brings : cursor.Brings meanwhile final between items failure) :
      Brings registry meanwhile final value store items failure
  | refused {fault : Fault} {later : Store}
      (fails : (value.elements registry).run store = (.error fault, later)) (last : final later) :
      Brings registry meanwhile final value store [] (some fault)

/-- The elements that are delivered. Behind a failure it is never known whether the last one that
was read is followed by another, so that one is kept back. -/
def deliveredFrom (index : Nat) (items : List Value) (failure : Option Fault) : List Placed :=
  match failure with
  | none => placeFrom index items
  | some _ => (placeFrom index items).dropLast

def endWith : Option Fault → Except Fault Unit
  | none => .ok ()
  | some fault => .error fault

def collecting (placed : Placed) : Run (List Placed) Unit :=
  modify fun state => (state.1, state.2 ++ [placed])

def notingElement {σ : Type} (visit : Placed → Run σ Unit) (placed : Placed) :
    Run (σ × List Placed) Unit :=
  ExceptT.mk fun (store, rest, seen) =>
    let (result, store, rest) := (visit placed).run (store, rest)
    (result, (store, rest, seen ++ [placed]))

theorem placed_collects (registry : Registry) (value : Value) (store : Store) :
    value.placed registry store =
      let run := (value.visit registry collecting).run (store, [])
      (run.2.2, faultOf run.1, run.2.1) := by
  unfold Value.placed
  dsimp only
  split
  · next ran =>
      have collected : (value.visit registry collecting).run (store, []) = _ := ran
      rw [collected]
      rfl
  · next ran =>
      have collected : (value.visit registry collecting).run (store, []) = _ := ran
      rw [collected]
      rfl

theorem noting_element_run {σ : Type} {visit : Placed → Run σ Unit} {placed : Placed}
    {store later : Store} {rest after : σ}
    (run : (visit placed).run (store, rest) = (.ok (), later, after)) (seen : List Placed) :
    (notingElement visit placed).run (store, rest, seen) =
      (.ok (), later, after, seen ++ [placed]) := by
  have run' : visit placed (store, rest) = (.ok (), later, after) := run
  unfold notingElement ExceptT.run ExceptT.mk
  dsimp only
  rw [run']

theorem place_from_get (index place : Nat) (items : List Value) :
    (placeFrom index items)[place]? = items[place]?.map fun item =>
      ⟨index + place, .at (index + place) (place + 1 == items.length),
        place + 1 == items.length, item⟩ := by
  induction items generalizing index place with
  | nil => rfl
  | cons item items induction =>
      cases place with
      | zero => cases items <;> rfl
      | succ place =>
          have same : (place + 1 + 1 == items.length + 1) = (place + 1 == items.length) := by simp
          rw [placeFrom, List.getElem?_cons_succ, List.getElem?_cons_succ, induction,
            List.length_cons, same, Nat.add_assoc, Nat.add_comm 1]

theorem place_from_elements (index : Nat) (items : List Value) :
    (placeFrom index items).map (·.element) = items := by
  induction items generalizing index with
  | nil => rfl
  | cons item items induction => rw [placeFrom, List.map_cons, induction]

theorem place_from_length (index : Nat) (items : List Value) :
    (placeFrom index items).length = items.length := by
  induction items generalizing index with
  | nil => rfl
  | cons item items induction => rw [placeFrom, List.length_cons, induction, List.length_cons]

theorem delivered_length (index : Nat) (items : List Value) (failure : Option Fault) :
    (deliveredFrom index items failure).length =
      if failure = none then items.length else items.length - 1 := by
  cases failure with
  | none => exact place_from_length index items
  | some fault => exact List.length_dropLast.trans (by rw [place_from_length]; rfl)

theorem place_of_delivered {index place : Nat} {items : List Value} {failure : Option Fault}
    {placed : Placed} (there : (deliveredFrom index items failure)[place]? = some placed) :
    (placeFrom index items)[place]? = some placed := by
  cases failure with
  | none => exact there
  | some fault =>
      rw [deliveredFrom, List.getElem?_dropLast] at there
      split at there
      · exact there
      · cases there

theorem delivered_cons (index : Nat) (element item : Value) (items : List Value)
    (failure : Option Fault) :
    deliveredFrom index (element :: item :: items) failure =
      ⟨index, .at index false, false, element⟩ ::
        deliveredFrom (index + 1) (item :: items) failure := by
  cases failure <;> rfl

namespace Cursor

variable {meanwhile : Store → Store → Prop} {final : Store → Prop} {cursor rest : Cursor}
  {store later : Store} {item : Value} {items : List Value} {failure : Option Fault}

/-- Behind an item there is less to come than before it, unless the cursor has stayed where it was:
a stream that has no cell cannot move. -/
theorem bound_lt_or_stays (run : cursor.next.run store = (.ok (some (item, rest)), later)) :
    rest.bound later < cursor.bound store ∨ (rest = cursor ∧ later = store) := by
  rcases bound_lt_or_stream run with ⟨less, same⟩ | ⟨contents, failure, cell, rfl, below⟩
  · exact .inl (same ▸ less)
  · rw [stream_step, Array.getElem?_eq_getElem below] at run
    cases run
    by_cases live : cell < store.counters.size
    · left
      have counted : (store.setCounter cell (store.counter cell + 1)).counter cell =
          store.counter cell + 1 := by
        simp [Store.counter, Store.setCounter, live]
      dsimp only [bound]
      omega
    · right
      refine ⟨rfl, ?_⟩
      simp [Store.setCounter, Array.setIfInBounds, live]

namespace Brings

variable (idle : ∀ store, meanwhile store store)
include idle

theorem moves (brings : cursor.Brings meanwhile final store items failure) (item : Value) :
    cursor.next.run store ≠ (.ok (some (item, cursor)), store) := by
  intro stays
  induction brings with
  | ends reads _ => cases reads.symm.trans stays
  | fails reads _ => cases reads.symm.trans stays
  | more reads _ induction =>
      cases reads.symm.trans stays
      exact induction _ (idle _) stays

theorem length_le (brings : cursor.Brings meanwhile final store items failure) :
    items.length ≤ cursor.bound store := by
  induction brings with
  | ends _ _ => exact Nat.zero_le _
  | fails _ _ => exact Nat.zero_le _
  | more reads others induction =>
      rcases bound_lt_or_stays reads with less | ⟨rfl, rfl⟩
      · exact Nat.lt_of_le_of_lt (induction _ (idle _)) less
      · exact ((others _ (idle _)).moves idle _ reads).elim

end Brings

end Cursor

section Visiting

variable {σ : Type} {registry : Registry} {meanwhile : Store → Store → Prop}
  {final : Store → Prop} {visit : Placed → Run σ Unit} {whole : List Placed}
  {holds : List Placed → σ → Prop}

/-- An element can be visited when `holds` is true of those before it, and then it is true of that
one as well. -/
def VisitsInTurn (meanwhile : Store → Store → Prop) (visit : Placed → Run σ Unit)
    (whole : List Placed) (holds : List Placed → σ → Prop) : Prop :=
  ∀ seen placed, seen ++ [placed] <+: whole → ∀ store rest, holds seen rest →
    ∃ later after, (visit placed).run (store, rest) = (.ok (), later, after) ∧
      meanwhile store later ∧ holds (seen ++ [placed]) after

theorem mem_of_begins {seen : List Placed} {placed : Placed} (begins : seen ++ [placed] <+: whole) :
    placed ∈ whole :=
  begins.subset (by simp)

/-- Elements that are visited one by one without fault are noted in turn. -/
theorem VisitsInTurn.of_calm
    (calm : ∀ placed ∈ whole, ∀ state, ∃ later, (visit placed).run state = (.ok (), later) ∧
      meanwhile state.1 later.1) :
    VisitsInTurn meanwhile (notingElement visit) whole fun before state => state.2 = before := by
  rintro before placed begins store ⟨inner, noted⟩ rfl
  obtain ⟨⟨later, after⟩, run, changed⟩ := calm placed (mem_of_begins begins) (store, inner)
  exact ⟨later, (after, noted ++ [placed]), noting_element_run run noted, changed, rfl⟩

variable (idle : ∀ store, meanwhile store store) (steps : VisitsInTurn meanwhile visit whole holds)
include idle steps

/-- The element at hand has been read already, and all before it are `seen`. -/
theorem visit_from_brings {cursor : Cursor} {store : Store} {items : List Value}
    {failure : Option Fault} (brings : cursor.Brings meanwhile final store items failure)
    {fuel index : Nat} {element : Value} (enough : items.length < fuel) {seen : List Placed}
    (split : whole = seen ++ deliveredFrom index (element :: items) failure) {rest : σ}
    (start : holds seen rest) :
    ∃ read last after, (visitFrom visit fuel index element cursor).run (store, rest) =
        (endWith failure, last, after) ∧
      final read ∧ meanwhile read last ∧ holds whole after := by
  induction brings generalizing fuel index element seen rest with
  | @ends cursor store later reads last =>
      obtain ⟨fuel, rfl⟩ := Nat.exists_eq_succ_of_ne_zero (Nat.ne_of_gt enough)
      let placed : Placed := ⟨index, .at index true, true, element⟩
      have all : whole = seen ++ [placed] := split
      obtain ⟨ending, after, visited, changed, now⟩ :=
        steps seen placed (all ▸ List.prefix_rfl) later rest start
      refine ⟨later, ending, after, ?_, last, changed, by rwa [all]⟩
      rw [visitFrom, Action.run_bind, run_lift_access, reads]
      change (visit placed >>= fun _ => pure ()).run (later, rest) = _
      rw [Action.run_bind, visited]
      rfl
  | @fails cursor store later fault reads last =>
      obtain ⟨fuel, rfl⟩ := Nat.exists_eq_succ_of_ne_zero (Nat.ne_of_gt enough)
      have all : whole = seen := split.trans (List.append_nil seen)
      refine ⟨later, later, rest, ?_, last, idle later, by rwa [all]⟩
      rw [visitFrom, Action.run_bind, run_lift_access, reads]
      rfl
  | @more cursor next store later item items failure reads others induction =>
      obtain ⟨fuel, rfl⟩ := Nat.exists_eq_succ_of_ne_zero (Nat.ne_of_gt (Nat.zero_lt_of_lt enough))
      let placed : Placed := ⟨index, .at index false, false, element⟩
      have all : whole = seen ++ [placed] ++ deliveredFrom (index + 1) (item :: items) failure := by
        rw [split, delivered_cons, List.append_assoc, List.singleton_append]
      obtain ⟨between, after, visited, changed, now⟩ :=
        steps seen placed (by rw [all]; exact List.prefix_append _ _) later rest start
      obtain ⟨read, last, final', run, rest'⟩ :=
        induction between changed (Nat.lt_of_succ_lt_succ enough) all now
      refine ⟨read, last, final', ?_, rest'⟩
      rw [visitFrom, Action.run_bind, run_lift_access, reads]
      change (visit placed >>= fun _ => visitFrom visit fuel (index + 1) item next).run
        (later, rest) = _
      rw [Action.run_bind, visited]
      exact run

/-- All elements that are delivered are visited, one after the other, and the iteration ends as the
sequence does. -/
theorem Value.visit_brings {value : Value} {store : Store} {items : List Value}
    {failure : Option Fault} (brings : value.Brings registry meanwhile final store items failure)
    (split : whole = deliveredFrom 1 items failure) {rest : σ} (start : holds [] rest) :
    ∃ read last after, (value.visit registry visit).run (store, rest) =
        (endWith failure, last, after) ∧
      final read ∧ meanwhile read last ∧ holds whole after := by
  cases brings with
  | @refused fault later fails last =>
      refine ⟨later, later, rest, ?_, last, idle later, split ▸ start⟩
      rw [Value.visit, Action.run_bind, run_lift_access, fails]
      rfl
  | @read cursor between _ _ starts brings =>
      have enough := brings.length_le idle
      cases brings with
      | @ends _ _ later reads last =>
          rw [visit_first starts rest reads, split]
          exact ⟨later, later, rest, rfl, last, idle later, start⟩
      | @fails _ _ later fault reads last =>
          refine ⟨later, later, rest, ?_, last, idle later, split ▸ start⟩
          have begins : (liftAccess (value.elements registry) : Run σ Cursor).run (store, rest) =
              (.ok cursor, between, rest) := by rw [run_lift_access, starts]
          have failed : (liftAccess cursor.next : Run σ _).run (between, rest) =
              (.error fault, later, rest) := by rw [run_lift_access, reads]
          have gets : (get : Run σ (Store × σ)).run (between, rest) =
              (.ok (between, rest), between, rest) := rfl
          rw [Value.visit, Action.run_bind_ok begins, Action.run_bind_ok gets]
          exact Action.run_bind_error failed
      | @more _ next _ later item items _ reads others =>
          rw [visit_first starts rest reads]
          exact visit_from_brings idle steps (others later (idle later)) enough
            (split.trans (List.nil_append _).symm) start

end Visiting

/-- Whatever a sequence brings, its elements are delivered one by one and in order, each with its
index from one on. The first one is said to be the first even if it is the last as well, and the
last one is told from all others. If reading fails the element before the failure is not delivered,
no other one is taken for the last, and the failure is passed on. It is the same for all who visit
the elements, if what they do meanwhile leaves the sequence what it is. -/
theorem elements_come_in_their_places (registry : Registry) (value : Value)
    {meanwhile : Store → Store → Prop} (idle : ∀ store, meanwhile store store)
    {final : Store → Prop} {store : Store} {items : List Value} {failure : Option Fault}
    (brings : value.Brings registry meanwhile final store items failure) :
    ∃ seen : List Placed,
      seen.length = (if failure = none then items.length else items.length - 1) ∧
      (∀ (place : Nat) (placed : Placed), seen[place]? = some placed →
        placed.index = place + 1 ∧ items[place]? = some placed.element ∧
        (placed.last = true ↔ place + 1 = items.length) ∧
        placed.position =
          if place = 0 then .first else if place + 1 = items.length then .last else .other) ∧
      (failure ≠ none → ∀ placed ∈ seen, placed.last = false ∧ placed.position ≠ .last) ∧
      (∃ last, value.placed registry store = (seen, failure, last)) ∧
      ∀ (σ : Type) (visit : Placed → Run σ Unit),
        (∀ placed ∈ seen, ∀ state, ∃ later, (visit placed).run state = (.ok (), later) ∧
          meanwhile state.1 later.1) →
        ∀ rest, ∃ last after,
          (value.visit registry (notingElement visit)).run (store, rest, []) =
            (endWith failure, last, after, seen) := by
  let seen := deliveredFrom 1 items failure
  have length : seen.length = (if failure = none then items.length else items.length - 1) :=
    delivered_length 1 items failure
  have places : ∀ (place : Nat) (placed : Placed), seen[place]? = some placed →
      placed.index = place + 1 ∧ items[place]? = some placed.element ∧
      (placed.last = true ↔ place + 1 = items.length) ∧
      placed.position =
        if place = 0 then .first else if place + 1 = items.length then .last else .other := by
    intro place placed there
    have among := place_of_delivered there
    rw [place_from_get, Option.map_eq_some_iff] at among
    obtain ⟨item, stands, rfl⟩ := among
    refine ⟨Nat.add_comm 1 place, stands, beq_iff_eq, ?_⟩
    simp only [Position.at, Nat.add_eq_left, beq_iff_eq]
  refine ⟨seen, length, places, ?_, ?_, ?_⟩
  · intro failed placed member
    obtain ⟨place, below, rfl⟩ := List.mem_iff_getElem.mp member
    rw [length, if_neg failed] at below
    obtain ⟨_, _, last, position⟩ := places place _ (List.getElem?_eq_getElem _)
    have further : place + 1 ≠ items.length := by omega
    refine ⟨?_, ?_⟩
    · rw [← Bool.not_eq_true, last]
      exact further
    · rw [position, if_neg further]
      split <;> decide
  · have steps : VisitsInTurn meanwhile collecting seen Eq := by
      rintro before placed _ store rest rfl
      exact ⟨store, before ++ [placed], rfl, idle store, rfl⟩
    obtain ⟨_, last, after, run, _, _, rfl⟩ :=
      Value.visit_brings idle steps brings rfl (rfl : [] = [])
    refine ⟨last, ?_⟩
    rw [placed_collects, run]
    cases failure <;> rfl
  · intro σ visit calm rest
    have steps := VisitsInTurn.of_calm calm
    have start : ((rest, []) : σ × List Placed).2 = [] := rfl
    obtain ⟨_, last, ⟨after, noted⟩, run, _, _, rfl⟩ :=
      Value.visit_brings idle steps brings rfl start
    exact ⟨last, after, run⟩

/-- The third element is read, and then the stream fails: two are delivered. -/
theorem failing_stream_keeps_an_element_back :
    let fault : Fault := .raised .test "lost"
    let value : Value := .stream [.null, .missing, .int 7] (some fault) 0
    value.Brings .none Eq (fun _ => True) .empty [.null, .missing, .int 7] (some fault) ∧
      ∃ last, value.placed .none .empty =
        ([⟨1, .first, false, .null⟩, ⟨2, .other, false, .missing⟩], some fault, last) := by
  intro fault value
  have brings : value.Brings .none Eq (fun _ => True) .empty [.null, .missing, .int 7]
      (some fault) := by
    refine .read rfl (.more rfl ?_)
    rintro _ rfl
    refine .more rfl ?_
    rintro _ rfl
    refine .more rfl ?_
    rintro _ rfl
    exact .fails rfl trivial
  refine ⟨brings, ?_⟩
  obtain ⟨seen, length, places, _, ⟨last, run⟩, _⟩ :=
    elements_come_in_their_places .none value (fun _ => rfl) brings
  obtain ⟨⟨index, position, final, element⟩, ⟨index', position', final', element'⟩, rfl⟩ :=
    List.length_eq_two.mp length
  obtain ⟨rfl, there, isLast, rfl⟩ := places 0 _ rfl
  obtain ⟨rfl, there', isLast', rfl⟩ := places 1 _ rfl
  cases there
  cases there'
  have notLast : final = false := by simpa using isLast
  have notLast' : final' = false := by simpa using isLast'
  subst notLast notLast'
  exact ⟨last, run⟩

end Mustache
