import Mathlib.Data.List.Basic
import Mustache.Proofs.Render.Complement
import Mustache.Proofs.Value.Placed

/-!
Streams in templates. A section takes all that a stream still has, and an inverted section takes an
element only to see whether there is one. What one of them has taken no other one gets, so that all
elements are accounted for by what has been done with the stream, in whatever order.
-/

namespace Mustache

set_option autoImplicit false

inductive Use (σ : Type) where
  /-- An inverted section asks whether the value is falsy. -/
  | asked
  /-- A section visits all elements. -/
  | visited (visit : Placed → Run σ Unit)

inductive Finding where
  | told (answer : Except Fault Bool)
  | delivered (seen : List Placed) (ending : Except Fault Unit)

def Finding.elements : Finding → List Value
  | .told _ => []
  | .delivered seen _ => seen.map (·.element)

namespace Use

variable {σ : Type}

def run (registry : Registry) (value : Value) : Use σ → Store × σ → Finding × Store × σ
  | .asked, (store, rest) =>
      let (answer, store) := (value.isFalsy registry).run store
      (.told answer, store, rest)
  | .visited visit, (store, rest) =>
      let (ending, store, rest, seen) :=
        (value.visit registry (notingElement visit)).run (store, rest, [])
      (.delivered seen ending, store, rest)

def runAll (registry : Registry) (value : Value) :
    List (Use σ) → Store × σ → List Finding × Store × σ
  | [], state => ([], state)
  | use :: uses, state =>
      let (finding, state) := use.run registry value state
      let (findings, state) := runAll registry value uses state
      (finding :: findings, state)

def finds (left : List Value) : Use σ → Finding
  | .asked => .told (.ok left.isEmpty)
  | .visited _ => .delivered (placeFrom 1 left) (.ok ())

def leaves (left : List Value) : Use σ → List Value
  | .asked => left.tail
  | .visited _ => []

def findsInTurn (left : List Value) : List (Use σ) → List Finding
  | [] => []
  | use :: uses => use.finds left :: findsInTurn (use.leaves left) uses

def leavesInTurn (left : List Value) (uses : List (Use σ)) : List Value := uses.foldl leaves left

end Use

def Store.Spares (cell : Nat) (store later : Store) : Prop :=
  later.counters[cell]? = store.counters[cell]?

def Use.Calm {σ : Type} (items : List Value) (cell : Nat) : Use σ → Prop
  | .asked => True
  | .visited visit => ∀ placed, placed.element ∈ items → ∀ state, ∃ later,
      (visit placed).run state = (.ok (), later) ∧ state.1.Spares cell later.1

/-- The stream is there, and has these of its items left. -/
structure Store.Leaves (store : Store) (items : List Value) (cell : Nat) (left : List Value) :
    Prop where
  live : cell < store.counters.size
  rest : items.drop (store.counter cell) = left

section Streams

variable {registry : Registry} {items left : List Value} {cell : Nat} {store later : Store}

theorem stream_elements {failure : Option Fault}
    (unregistered : registry.adapterFor? (.stream items failure cell) = none) :
    (Value.stream items failure cell).elements registry =
      pure (.stream items.toArray failure cell) := by
  rw [Value.elements, unregistered]
  rfl

theorem stream_kind (registry : Registry) (items : List Value) (failure : Option Fault)
    (cell : Nat) : (Value.stream items failure cell).kind registry = .sequence :=
  ite_self Kind.sequence

namespace Store.Leaves

theorem spared (leaves : store.Leaves items cell left) (spares : store.Spares cell later) :
    later.Leaves items cell left := by
  have same : later.counters[cell]? = store.counters[cell]? := spares
  have counted : later.counter cell = store.counter cell := by
    simp only [Store.counter, Array.getD_eq_getD_getElem?, same]
  refine ⟨?_, counted ▸ leaves.rest⟩
  have there := Array.getElem?_eq_getElem leaves.live
  rw [← same] at there
  exact (Array.getElem?_eq_some_iff.mp there).1

theorem ends (leaves : store.Leaves items cell []) :
    (Cursor.stream items.toArray none cell).next.run store = (.ok none, store) := by
  have beyond : items.toArray[store.counter cell]? = none := by
    rw [List.getElem?_toArray, List.getElem?_eq_none_iff]
    exact List.drop_eq_nil_iff.mp leaves.rest
  rw [Cursor.stream_step, beyond]

theorem reads {element : Value} (leaves : store.Leaves items cell (element :: left)) :
    ∃ later, (Cursor.stream items.toArray none cell).next.run store =
        (.ok (some (element, .stream items.toArray none cell)), later) ∧
      later.Leaves items cell left := by
  have there : items[store.counter cell]? = some element := by
    rw [← List.head?_drop, leaves.rest, List.head?_cons]
  refine ⟨store.setCounter cell (store.counter cell + 1), ?_, ?_, ?_⟩
  · rw [Cursor.stream_step, List.getElem?_toArray, there]
  · simpa [Store.setCounter] using leaves.live
  · have counted : (store.setCounter cell (store.counter cell + 1)).counter cell =
        store.counter cell + 1 := by
      simp [Store.counter, Store.setCounter, leaves.live]
    rw [counted, ← List.tail_drop, leaves.rest, List.tail_cons]

theorem brings (leaves : store.Leaves items cell left) :
    (Cursor.stream items.toArray none cell).Brings (Store.Spares cell)
      (Store.Leaves · items cell []) store left none := by
  induction left generalizing store with
  | nil => exact .ends leaves.ends leaves
  | cons element left induction =>
      obtain ⟨later, reads, leaves⟩ := leaves.reads
      exact .more reads fun after spares => induction (leaves.spared spares)

theorem asks (leaves : store.Leaves items cell left)
    (unregistered : registry.adapterFor? (.stream items none cell) = none) :
    ∃ later, ((Value.stream items none cell).isFalsy registry).run store =
        (.ok left.isEmpty, later) ∧ later.Leaves items cell left.tail ∧
      (left = [] → later = store) := by
  have asked : ((Value.stream items none cell).isFalsy registry).run store =
      (do return (← (Cursor.stream items.toArray none cell).next).isNone : Access Bool).run
        store := by
    unfold Value.isFalsy
    rw [stream_kind]
    change ((Value.stream items none cell).isEmptySequence registry).run store = _
    rw [Value.empty_run, stream_elements unregistered, pure_bind]
    have unsized : (if (registry.adapterFor? (.stream items none cell)).isNone then
        (Value.stream items none cell).length? store else none) = none := ite_self none
    rw [unsized]
    rfl
  rw [asked, Action.run_bind]
  cases left with
  | nil =>
      rw [leaves.ends]
      exact ⟨store, rfl, leaves, fun _ => rfl⟩
  | cons element left =>
      obtain ⟨later, reads, leaves⟩ := leaves.reads
      rw [reads]
      exact ⟨later, rfl, leaves, nofun⟩

theorem visits {σ : Type} {visit : Placed → Run σ Unit} {holds : List Placed → σ → Prop}
    (leaves : store.Leaves items cell left)
    (unregistered : registry.adapterFor? (.stream items none cell) = none)
    (steps : VisitsInTurn (Store.Spares cell) visit (placeFrom 1 left) holds) {rest : σ}
    (start : holds [] rest) :
    ∃ last after, ((Value.stream items none cell).visit registry visit).run (store, rest) =
        (.ok (), last, after) ∧
      last.Leaves items cell [] ∧ holds (placeFrom 1 left) after := by
  have brings : (Value.stream items none cell).Brings registry (Store.Spares cell)
      (Store.Leaves · items cell []) store left none :=
    .read (by rw [stream_elements unregistered]; rfl) leaves.brings
  have idle (store : Store) : store.Spares cell store := rfl
  obtain ⟨_, last, after, run, final, spares, seen⟩ :=
    Value.visit_brings idle steps brings rfl start
  exact ⟨last, after, run, final.spared spares, seen⟩

theorem member (leaves : store.Leaves items cell left) {placed : Placed}
    (there : placed ∈ placeFrom 1 left) : placed.element ∈ items := by
  have among : placed.element ∈ (placeFrom 1 left).map (·.element) := List.mem_map_of_mem there
  rw [place_from_elements, ← leaves.rest] at among
  exact List.mem_of_mem_drop among

end Store.Leaves

/-- As `visits`, for a visit of which all that counts is that it goes well. -/
theorem Store.Leaves.notes {σ : Type} {visit : Placed → Run σ Unit}
    (leaves : store.Leaves items cell left)
    (unregistered : registry.adapterFor? (.stream items none cell) = none)
    (calm : (Use.visited visit).Calm items cell) (rest : σ) :
    ∃ last after, ((Value.stream items none cell).visit registry (notingElement visit)).run
        (store, rest, []) = (.ok (), last, after, placeFrom 1 left) ∧
      last.Leaves items cell [] := by
  have steps := VisitsInTurn.of_calm fun placed there => calm placed (leaves.member there)
  have start : ((rest, []) : σ × List Placed).2 = [] := rfl
  obtain ⟨last, ⟨after, seen⟩, run, final, rfl⟩ := leaves.visits unregistered steps start
  exact ⟨last, after, run, final⟩

namespace Use

variable {σ : Type} {use : Use σ} {uses : List (Use σ)}

theorem run_finds (leaves : store.Leaves items cell left)
    (unregistered : registry.adapterFor? (.stream items none cell) = none)
    (calm : use.Calm items cell) (rest : σ) :
    ∃ last after, use.run registry (.stream items none cell) (store, rest) =
        (use.finds left, last, after) ∧ last.Leaves items cell (use.leaves left) := by
  cases use with
  | asked =>
      obtain ⟨later, run, leaves, _⟩ := leaves.asks unregistered
      refine ⟨later, rest, ?_, leaves⟩
      dsimp only [Use.run]
      rw [run]
      rfl
  | visited visit =>
      obtain ⟨last, after, run, final⟩ := leaves.notes unregistered calm rest
      refine ⟨last, after, ?_, final⟩
      dsimp only [Use.run]
      rw [run]
      rfl

theorem run_all_finds (leaves : store.Leaves items cell left)
    (unregistered : registry.adapterFor? (.stream items none cell) = none)
    (calm : ∀ use ∈ uses, use.Calm items cell) (rest : σ) :
    ∃ last after, runAll registry (.stream items none cell) uses (store, rest) =
        (findsInTurn left uses, last, after) ∧
      last.Leaves items cell (leavesInTurn left uses) := by
  induction uses generalizing left store rest with
  | nil => exact ⟨store, rest, rfl, leaves⟩
  | cons use uses induction =>
      obtain ⟨first, others⟩ := List.forall_mem_cons.mp calm
      obtain ⟨later, between, run, leaves⟩ := run_finds leaves unregistered first rest
      obtain ⟨last, after, runs, final⟩ := induction leaves others between
      refine ⟨last, after, ?_, final⟩
      rw [runAll, run]
      dsimp only
      rw [runs]
      rfl

theorem finds_none (uses : List (Use σ)) :
    (findsInTurn [] uses).flatMap Finding.elements = [] := by
  induction uses with
  | nil => rfl
  | cons use uses induction => cases use <;> exact induction

theorem leaves_none (uses : List (Use σ)) : leavesInTurn [] uses = [] := by
  induction uses with
  | nil => rfl
  | cons use uses induction => cases use <;> exact induction

theorem leaves_none_after {visit : Placed → Run σ Unit} (there : .visited visit ∈ uses)
    (left : List Value) : leavesInTurn left uses = [] := by
  obtain ⟨before, others, rfl⟩ := List.mem_iff_append.mp there
  rw [leavesInTurn, List.foldl_append, List.foldl_cons]
  exact leaves_none others

/-- Only the elements in front of those that are delivered are missing. -/
theorem finds_suffix (left : List Value) (uses : List (Use σ)) :
    (findsInTurn left uses).flatMap Finding.elements <:+ left := by
  induction uses generalizing left with
  | nil => exact List.nil_suffix
  | cons use uses induction =>
      cases use with
      | asked => exact (induction left.tail).trans (List.tail_suffix left)
      | visited visit =>
          change (placeFrom 1 left).map (·.element) ++
            (findsInTurn [] uses).flatMap Finding.elements <:+ left
          rw [place_from_elements, finds_none, List.append_nil]

theorem finds_after_asking (left : List Value) (times : Nat) (visit : Placed → Run σ Unit)
    (uses : List (Use σ)) :
    findsInTurn left (List.replicate times .asked ++ .visited visit :: uses) =
      (List.range times).map (fun asked => .told (.ok (decide (left.length ≤ asked)))) ++
        .delivered (placeFrom 1 (left.drop times)) (.ok ()) :: findsInTurn [] uses := by
  induction times generalizing left with
  | zero => rfl
  | succ times induction =>
      have first : left.isEmpty = decide (left.length ≤ 0) := by cases left <;> rfl
      rw [List.replicate_succ, List.cons_append, findsInTurn, induction, List.range_succ_eq_map]
      simp [leaves, finds, first, Function.comp_def]

end Use

theorem section_takes_all {setting : Setting} {scope : Scope} {name : String} {line : Nat}
    {body : List Segment} {stored : Store} {written : String}
    (unregistered : setting.registry.adapterFor? (.stream items none cell) = none)
    (resolves : (setting.resolve scope name).run (store, written) =
      (.ok (.stream items none cell), stored, written))
    (leaves : stored.Leaves items cell left)
    (calm : (Use.visited fun placed =>
      renderSegments setting (scope.nest (.ofPlaced placed)) body).Calm items cell) :
    ∃ last after, (renderSegment setting scope (.block false name line body)).run (store, written) =
        (.ok (), last, after) ∧ last.Leaves items cell [] := by
  have steps : VisitsInTurn (Store.Spares cell)
      (fun placed => renderSegments setting (scope.nest (.ofPlaced placed)) body)
      (placeFrom 1 left) (fun _ _ => True) := by
    intro before placed begins store text _
    obtain ⟨⟨later, after⟩, run, spares⟩ :=
      calm placed (leaves.member (mem_of_begins begins)) (store, text)
    exact ⟨later, after, run, spares, trivial⟩
  obtain ⟨last, after, run, final, _⟩ := leaves.visits unregistered steps trivial
  refine ⟨last, after, ?_, final⟩
  rw [section_resolves, Action.run_bind_ok resolves]
  unfold Setting.sectionOver
  rw [stream_kind]
  exact run

theorem inverted_renders_at_end {setting : Setting} {scope : Scope} {name : String} (line : Nat)
    (body : List Segment) {stored : Store} {written : String}
    (unregistered : setting.registry.adapterFor? (.stream items none cell) = none)
    (resolves : (setting.resolve scope name).run (store, written) =
      (.ok (.stream items none cell), stored, written))
    (leaves : stored.Leaves items cell []) :
    (renderSegment setting scope (.block true name line body)).run (store, written) =
      (renderSegments setting scope body).run (stored, written) := by
  obtain ⟨later, run, _, same⟩ := leaves.asks unregistered
  cases same rfl
  rw [inverted_resolves, Action.run_bind_ok resolves, Setting.invertedOver, Action.run_bind,
    run_lift_access, run]
  rfl

end Streams

/-- Of a stream that does not fail and has no adapter every element is taken once at most. Asking takes
one, if there is one, and tells whether there was; a section takes all that are left, and places
them among each other. So what all sections deliver is the end of what there was, and only as many
elements are missing from it as have been asked for before the first section. After a section every
inverted section is rendered. -/
theorem streams_are_used_up (setting : Setting) (items : List Value) (cell : Nat)
    (unregistered : setting.registry.adapterFor? (.stream items none cell) = none) :
    let value : Value := .stream items none cell
    (∀ (store : Store) (left : List Value), store.Leaves items cell left →
      (∃ later, (value.isFalsy setting.registry).run store = (.ok left.isEmpty, later) ∧
        later.Leaves items cell left.tail) ∧
      ∀ (σ : Type) (visit : Placed → Run σ Unit), (Use.visited visit).Calm items cell →
        ∀ rest, ∃ last after,
          (value.visit setting.registry (notingElement visit)).run (store, rest, []) =
            (.ok (), last, after, placeFrom 1 left) ∧ last.Leaves items cell []) ∧
    (∀ (σ : Type) (uses : List (Use σ)), (∀ use ∈ uses, use.Calm items cell) →
      ∀ (store : Store) (left : List Value), store.Leaves items cell left → ∀ rest,
        ∃ findings last after,
          Use.runAll setting.registry value uses (store, rest) = (findings, last, after) ∧
          findings = Use.findsInTurn left uses ∧
          last.Leaves items cell (Use.leavesInTurn left uses) ∧
          findings.flatMap Finding.elements <:+ left ∧
          (∀ (times : Nat) (visit : Placed → Run σ Unit) (others : List (Use σ)),
            uses = List.replicate times .asked ++ .visited visit :: others →
            findings = (List.range times).map
                (fun asked => .told (.ok (decide (left.length ≤ asked)))) ++
              .delivered (placeFrom 1 (left.drop times)) (.ok ()) :: Use.findsInTurn [] others ∧
            findings.flatMap Finding.elements = left.drop times) ∧
          ∀ visit, .visited visit ∈ uses → last.Leaves items cell []) ∧
    ∀ (scope : Scope) (name : String) (line : Nat) (body : List Segment) (written : String)
      (store stored : Store) (left : List Value),
      (setting.resolve scope name).run (store, written) = (.ok value, stored, written) →
      stored.Leaves items cell left →
      ((Use.visited fun placed =>
          renderSegments setting (scope.nest (.ofPlaced placed)) body).Calm items cell →
        ∃ last after, (renderSegment setting scope (.block false name line body)).run
          (store, written) = (.ok (), last, after) ∧ last.Leaves items cell []) ∧
      (left = [] →
        (renderSegment setting scope (.block true name line body)).run (store, written) =
          (renderSegments setting scope body).run (stored, written)) := by
  intro value
  refine ⟨?_, ?_, ?_⟩
  · intro store left leaves
    obtain ⟨later, run, others, _⟩ := leaves.asks unregistered
    exact ⟨⟨later, run, others⟩, fun _ _ calm rest => leaves.notes unregistered calm rest⟩
  · intro σ uses calm store left leaves rest
    obtain ⟨last, after, run, final⟩ := Use.run_all_finds leaves unregistered calm rest
    refine ⟨_, last, after, run, rfl, final, Use.finds_suffix left uses, ?_, ?_⟩
    · rintro times visit others rfl
      have found := Use.finds_after_asking left times visit others
      refine ⟨found, ?_⟩
      rw [found, List.flatMap_append, List.flatMap_cons, Use.finds_none, List.append_nil]
      simp [Finding.elements, place_from_elements, List.flatMap_map]
    · intro visit there
      rwa [Use.leaves_none_after there] at final
  · intro scope name line body written store stored left resolves leaves
    refine ⟨section_takes_all unregistered resolves leaves, ?_⟩
    rintro rfl
    exact inverted_renders_at_end line body unregistered resolves leaves

/-- Asked for before it is visited, a stream of two elements delivers the second one only. After a
section the inverted section is rendered. -/
theorem asking_first_loses_an_element :
    let items : List Value := [.int 1, .int 2]
    let value : Value := .stream items none 0
    let setting : Setting := ⟨.standard, .none⟩
    let scope : Scope := .root (.mapping .dictionary [(.text "x", value)])
    let uses : List (Use Unit) := [.asked, .visited fun _ => pure (), .asked]
    Store.empty.Leaves items 0 items ∧
      (Use.runAll .none value uses (.empty, ())).1 =
        [.told (.ok false), .delivered [⟨1, .first, true, .int 2⟩] (.ok ()), .told (.ok true)] ∧
      ∃ last written, (renderSegment setting scope (.block false "x" 1 [.text "a"])).run
          (.empty, "") = (.ok (), last, written) ∧
        (renderSegment setting scope (.block true "x" 1 [.text "b"])).run (last, written) =
          (.ok (), last, written ++ "b") := by
  intro items value setting scope uses
  obtain ⟨_, used, rendered⟩ := streams_are_used_up setting items 0 rfl
  have new : Store.empty.Leaves items 0 items := ⟨by decide, rfl⟩
  have calm : ∀ use ∈ uses, use.Calm items 0 := by
    simp only [uses, List.forall_mem_cons, List.not_mem_nil, false_implies, implies_true, and_true]
    exact ⟨trivial, fun _ _ state => ⟨state, rfl, rfl⟩, trivial⟩
  obtain ⟨findings, last, after, run, found, _⟩ := used Unit uses calm .empty items new ()
  have resolves (store : Store) (written : String) :
      (setting.resolve scope "x").run (store, written) = (.ok value, store, written) := rfl
  obtain ⟨last, written, run', none⟩ :=
    (rendered scope "x" 1 [.text "a"] "" .empty .empty items (resolves _ _) new).1
      fun _ _ state => ⟨(state.1, state.2 ++ "a"), rfl, rfl⟩
  refine ⟨new, ?_, last, written, run', ?_⟩
  · rw [run, found]
    rfl
  · exact (rendered scope "x" 1 [.text "b"] written last last [] (resolves _ _) none).2 rfl

end Mustache
