import Mustache.Proofs.Outcome
import Mustache.Value.Iteration
import Mustache.Value.Written

/-!
How comparing values, asking for their truth and writing them may fail. All of it looks at values
as they are and calls nothing of host code, so it fails in ways of its own only.
-/

namespace Mustache

set_option autoImplicit false

variable {allowed : Fault → Prop}

theorem Store.mem_of_mem_held {α : Type} {store : Store} {items : List α} {cell : Nat} {item : α}
    (member : item ∈ store.held items cell) : item ∈ items := by
  obtain ⟨index, _, found⟩ := List.mem_filterMap.mp member
  exact List.mem_of_getElem? (by simpa using found)

def Value.Test.Keeps (allowed : Fault → Prop) (test : Value.Test) : Prop :=
  ∀ other, Ensures allowed Anything (test other)

def Value.Comparison.Keeps (allowed : Fault → Prop) (comparison : Value.Comparison) : Prop :=
  Value.Test.Keeps allowed comparison.same ∧ Value.Test.Keeps allowed comparison.less

namespace Value

theorem pass_each_ensures {tests : List Test} (each : ∀ test ∈ tests, Test.Keeps allowed test)
    (items : List Value) : Ensures allowed Anything (passEach tests items) := by
  induction tests generalizing items with
  | nil => cases items <;> trivial
  | cons test tests induction =>
      obtain ⟨first, rest⟩ := List.forall_mem_cons.mp each
      cases items with
      | nil => trivial
      | cons item items =>
          apply Ensures.of_bind (first item)
          intro passed _
          split
          · exact induction rest items
          · trivial

theorem pass_any_ensures {test : Test} (keeps : Test.Keeps allowed test) (items : List Value) :
    Ensures allowed Anything (passAny test items) := by
  induction items with
  | nil => trivial
  | cons item items induction =>
      apply Ensures.of_bind (keeps item)
      intro passed _
      split
      · trivial
      · exact induction

theorem pass_subset_ensures {tests : List Test} (each : ∀ test ∈ tests, Test.Keeps allowed test)
    (others : List Value) : Ensures allowed Anything (passSubset others tests) := by
  induction tests with
  | nil => trivial
  | cons test tests induction =>
      obtain ⟨first, rest⟩ := List.forall_mem_cons.mp each
      apply Ensures.of_bind (pass_any_ensures first others)
      intro passed _
      split
      · exact induction rest
      · trivial

theorem pass_entry_ensures {key value : Test} (keeps : Test.Keeps allowed key)
    (keeps' : Test.Keeps allowed value) (entries : List (Value × Value)) :
    Ensures allowed Anything (passEntry key value entries) := by
  induction entries with
  | nil => trivial
  | cons entry entries induction =>
      apply Ensures.of_bind (keeps entry.1)
      intro passed _
      split
      · exact keeps' entry.2
      · exact induction

theorem pass_entries_ensures {tests : List (Test × Test)}
    (each : ∀ test ∈ tests, Test.Keeps allowed test.1 ∧ Test.Keeps allowed test.2)
    (others : List (Value × Value)) : Ensures allowed Anything (passEntries others tests) := by
  induction tests with
  | nil => trivial
  | cons test tests induction =>
      obtain ⟨first, rest⟩ := List.forall_mem_cons.mp each
      apply Ensures.of_bind (pass_entry_ensures first.1 first.2 others)
      intro passed _
      split
      · exact induction rest
      · trivial

theorem less_sequence_ensures {comparisons : List Comparison}
    (each : ∀ comparison ∈ comparisons, comparison.Keeps allowed) (items : List Value) :
    Ensures allowed Anything (lessSequence comparisons items) := by
  induction comparisons generalizing items with
  | nil => cases items <;> trivial
  | cons comparison comparisons induction =>
      obtain ⟨first, rest⟩ := List.forall_mem_cons.mp each
      cases items with
      | nil => trivial
      | cons item items =>
          apply Ensures.of_bind (first.1 item)
          intro same _
          split
          · exact induction rest items
          · exact first.2 item

section Own

variable (own : ∀ cause, allowed (.value cause))
include own

theorem same_number_ensures (value other : Value) {result : Except Fault Bool}
    (compared : value.sameNumber? other = some result) : Ensures allowed Anything result := by
  unfold sameNumber? at compared
  split at compared
  · cases compared
    split
    · exact own _
    · trivial
  · cases compared

theorem same_leaf_keeps (store : Store) (value : Value) :
    Test.Keeps allowed (fun other => if value.isIdentical other then .ok true
      else (value.sameNumber? other).getD (.ok (value.sameSimple store other))) := by
  intro other
  dsimp only
  split
  · trivial
  · cases compared : value.sameNumber? other with
    | none => trivial
    | some result => exact same_number_ensures own value other compared

end Own

mutual
theorem same_keeps (own : ∀ cause, allowed (.value cause)) (store : Store) (value : Value) :
    Test.Keeps allowed (value.same store) := by
  match value with
  | .tuple items =>
      have each := same_each_keeps own store items
      intro other
      cases other with
      | tuple others => exact pass_each_ensures each others
      | _ => trivial
  | .list items cell =>
      have each := same_each_keeps own store items
      intro other
      cases other with
      | list others cell' =>
          dsimp only [same]
          split
          · exact pass_each_ensures (fun test member => each test (Store.mem_of_mem_held member)) _
          · trivial
      | _ => trivial
  | .set items =>
      have each := same_each_keeps own store items
      intro other
      cases other with
      | set others =>
          dsimp only [same]
          split
          · exact pass_subset_ensures each others
          · trivial
      | _ => trivial
  | .mapping _ entries =>
      have each := same_entries_keeps own store entries
      intro other
      cases other with
      | mapping _ others =>
          dsimp only [same]
          split
          · exact pass_entries_ensures each others
          · trivial
      | _ => trivial
  | .missing | .null | .bool _ | .int _ | .float _ _ | .decimal _ _ | .fraction _ _
  | .complex _ _ _ | .text _ | .octets _ | .buffer _ _ | .date _ _ _ | .range _ _ _
  | .stream _ _ _ | .array _ _ _ | .routine _ | .object _ =>
      unfold same
      exact same_leaf_keeps own store _
  termination_by structural value
theorem same_each_keeps (own : ∀ cause, allowed (.value cause)) (store : Store)
    (items : List Value) :
    ∀ test ∈ sameEach store items, Test.Keeps allowed test := by
  match items with
  | [] => exact List.forall_mem_nil _
  | item :: rest =>
      exact List.forall_mem_cons.mpr ⟨same_keeps own store item, same_each_keeps own store rest⟩
  termination_by structural items
theorem same_entries_keeps (own : ∀ cause, allowed (.value cause)) (store : Store)
    (entries : List (Value × Value)) :
    ∀ test ∈ sameEntries store entries,
      Test.Keeps allowed test.1 ∧ Test.Keeps allowed test.2 := by
  match entries with
  | [] => exact List.forall_mem_nil _
  | (key, value) :: rest =>
      exact List.forall_mem_cons.mpr
        ⟨⟨same_keeps own store key, same_keeps own store value⟩,
          same_entries_keeps own store rest⟩
  termination_by structural entries
end

theorem less_simple_keeps (own : ∀ cause, allowed (.value cause)) (store : Store)
    (value : Value) :
    Test.Keeps allowed (lessSimple store value) := by
  intro other
  unfold lessSimple
  split
  · split
    · exact own _
    · trivial
  · split
    · trivial
    · split
      · trivial
      · trivial
      · exact own _

mutual
theorem less_keeps (own : ∀ cause, allowed (.value cause)) (store : Store) (value : Value) :
    Test.Keeps allowed (value.less store) := by
  match value with
  | .tuple items =>
      have each := compare_each_keeps own store items
      intro other
      cases other with
      | tuple others => exact less_sequence_ensures each others
      | _ => exact own _
  | .list items cell =>
      have each := compare_each_keeps own store items
      intro other
      cases other with
      | list others cell' =>
          exact less_sequence_ensures
            (fun comparison member => each comparison (Store.mem_of_mem_held member)) _
      | _ => exact own _
  | .set items =>
      have each := same_each_keeps own store items
      intro other
      cases other with
      | set others =>
          dsimp only [less]
          split
          · exact pass_subset_ensures each others
          · trivial
      | _ => exact own _
  | .missing | .null | .bool _ | .int _ | .float _ _ | .decimal _ _ | .fraction _ _
  | .complex _ _ _ | .text _ | .octets _ | .buffer _ _ | .date _ _ _ | .range _ _ _
  | .mapping _ _ | .stream _ _ _ | .array _ _ _ | .routine _ | .object _ =>
      unfold less
      exact less_simple_keeps own store _
  termination_by structural value
theorem compare_each_keeps (own : ∀ cause, allowed (.value cause)) (store : Store)
    (items : List Value) :
    ∀ comparison ∈ compareEach store items, comparison.Keeps allowed := by
  match items with
  | [] => exact List.forall_mem_nil _
  | item :: rest =>
      exact List.forall_mem_cons.mpr
        ⟨⟨same_keeps own store item, less_keeps own store item⟩, compare_each_keeps own store rest⟩
  termination_by structural items
end

theorem check_length_short {length : Nat} (short : length ≤ lengthLimit) :
    checkLength length = .ok length := by
  unfold checkLength
  rw [if_neg (by omega), if_neg (by omega)]
  rfl

/-- A value that is measured is asked for its length, and any other one for an element. -/
theorem empty_run (registry : Registry) (value : Value) (store : Store) :
    (value.isEmptySequence registry).run store =
      ((if (registry.adapterFor? value).isNone then value.length? store else none).elim
        (do return (← (← value.elements registry).next).isNone : Access Bool)
        fun length => do return (← checkLength length) == 0).run store := by
  have looked : (get : Access Store).run store = (.ok store, store) := rfl
  unfold isEmptySequence
  rw [Action.run_bind_ok looked]
  dsimp only
  cases (if (registry.adapterFor? value).isNone then value.length? store else none) <;> rfl

section Own

variable (own : ∀ cause, allowed (.value cause))
include own

theorem check_length_ensures (length : Int) :
    Ensures allowed Anything (checkLength length) := by
  unfold checkLength
  split
  · exact own _
  · split
    · exact own _
    · trivial

theorem truth_upholds (value : Value) : Upholds allowed Anything value.truth := by
  apply Upholds.of_get
  intro store
  apply Upholds.of_except
  cases value with
  | object host =>
      cases length : host.length with
      | none =>
          dsimp only [isTrue]
          rw [length]
          trivial
      | some length =>
          dsimp only [isTrue]
          rw [length]
          exact .of_bind (check_length_ensures own _) fun _ _ => trivial
  | _ => trivial

theorem write_int_ensures (n : Int) : Ensures allowed Anything (writeInt n) := by
  unfold writeInt
  dsimp only
  split
  · exact own _
  · trivial

theorem write_range_ensures (start stop step : Int) :
    Ensures allowed Anything (writeRange start stop step) := by
  apply Ensures.of_bind (write_int_ensures own start)
  intro _ _
  apply Ensures.of_bind (write_int_ensures own stop)
  intro _ _
  split
  · trivial
  · exact .of_bind (write_int_ensures own step) fun _ _ => trivial

theorem write_fraction_ensures (numerator denominator : Int) (join : String → String → String) :
    Ensures allowed Anything (do
      let numerator ← writeInt numerator
      let denominator ← writeInt denominator
      return join numerator denominator) := by
  apply Ensures.of_bind (write_int_ensures own numerator)
  intro _ _
  exact .of_bind (write_int_ensures own denominator) fun _ _ => trivial

end Own

theorem each_ensures {results : List (Except Fault String)}
    (each : ∀ result ∈ results, Ensures allowed Anything result) :
    Ensures allowed Anything (results.mapM id) := by
  induction results with
  | nil => trivial
  | cons result results induction =>
      obtain ⟨first, rest⟩ := List.forall_mem_cons.mp each
      rw [List.mapM_cons]
      apply Ensures.of_bind first
      intro _ _
      exact .of_bind (induction rest) fun _ _ => trivial

mutual
theorem quoted_ensures (own : ∀ cause, allowed (.value cause)) (store : Store) (value : Value) :
    Ensures allowed Anything (value.quoted store) := by
  match value with
  | .int n => exact write_int_ensures own n
  | .fraction numerator denominator => exact write_fraction_ensures own _ _ _
  | .range start stop step => exact write_range_ensures own start stop step
  | .tuple items | .set items =>
      exact .of_bind (each_ensures (quoted_each_ensures own store items)) fun _ _ => trivial
  | .list items cell =>
      exact .of_bind (each_ensures fun result member =>
        quoted_each_ensures own store items result (Store.mem_of_mem_held member))
          fun _ _ => trivial
  | .mapping form entries =>
      have each := each_ensures (quoted_entries_ensures own store entries)
      cases form with
      | custom => trivial
      | dictionary => exact .of_bind each fun _ _ => trivial
      | view => exact .of_bind each fun _ _ => trivial
  | .missing | .null | .bool _ | .float _ _ | .decimal _ _ | .complex _ _ _ | .text _ | .octets _
  | .buffer _ _ | .date _ _ _ | .stream _ _ _ | .array _ _ _ | .routine _ | .object _ => trivial
  termination_by structural value
theorem quoted_each_ensures (own : ∀ cause, allowed (.value cause)) (store : Store)
    (items : List Value) : ∀ result ∈ quotedEach store items, Ensures allowed Anything result := by
  match items with
  | [] => exact List.forall_mem_nil _
  | item :: rest =>
      exact List.forall_mem_cons.mpr
        ⟨quoted_ensures own store item, quoted_each_ensures own store rest⟩
  termination_by structural items
theorem quoted_entries_ensures (own : ∀ cause, allowed (.value cause)) (store : Store)
    (entries : List (Value × Value)) :
    ∀ result ∈ quotedEntries store entries, Ensures allowed Anything result := by
  match entries with
  | [] => exact List.forall_mem_nil _
  | (key, value) :: rest =>
      refine List.forall_mem_cons.mpr ⟨?_, quoted_entries_ensures own store rest⟩
      apply Ensures.of_bind (quoted_ensures own store key)
      intro _ _
      exact .of_bind (quoted_ensures own store value) fun _ _ => trivial
  termination_by structural entries
end

theorem written_ensures (own : ∀ cause, allowed (.value cause)) (store : Store) (value : Value) :
    Ensures allowed Anything (value.written store) := by
  cases value with
  | fraction numerator denominator =>
      dsimp only [written, plain]
      split
      · exact write_int_ensures own _
      · exact write_fraction_ensures own _ _ _
  | mapping form entries =>
      cases form with
      | view => exact quoted_ensures own store (.mapping .dictionary entries)
      | dictionary => exact quoted_ensures own store (.mapping .dictionary entries)
      | custom => exact quoted_ensures own store (.mapping .custom entries)
  | bool _ | octets _ | buffer _ _ | text _ | decimal _ _ | date _ _ _ | object _ => trivial
  | _ => exact quoted_ensures own store _

end Value

end Mustache
