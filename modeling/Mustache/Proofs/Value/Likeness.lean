import Mustache.Proofs.Value.Guise
import Mustache.Value.Registry
import Mustache.Value.Truth
import Mustache.Value.Written

/-!
What can be told from a value by only looking at it is the same in every guise: its kind, how it
compares with others, its truth, its length and its text.
-/

namespace Mustache

set_option autoImplicit false

section Kinds

variable (guise : Guise)

theorem builtin_kind_under (value : Value) :
    (value.under guise).builtinKind = value.builtinKind := by
  cases value with
  | object host => simp only [Value.under, Value.builtinKind, under_host_items, under_items_eq,
      Option.isSome_map]
  | _ => rfl

/-- What replaces the characters of the text of a value has the guise of the value. -/
theorem replacing_under (value : Value) :
    (value.under guise).replacing? = value.replacing?.map (underRoutine guise) := by
  cases value with
  | object host => simp only [Value.under, Value.replacing?, under_host_replacing,
      under_replacing_eq]
  | _ => rfl

end Kinds

namespace Value

variable (guise : Guise)

theorem is_identical_under (value other : Value) :
    (value.under guise).isIdentical (other.under guise) = value.isIdentical other := by
  cases value with
  | float x cell => cases other <;> simp [Value.under, isIdentical]
  | decimal x cell => cases other <;> simp [Value.under, isIdentical]
  | complex real imaginary cell => cases other <;> simp [Value.under, isIdentical]
  | _ => rfl

theorem quantity_under (value : Value) : (value.under guise).quantity? = value.quantity? := by
  cases value <;> rfl

theorem complex_quantity_under (value : Value) :
    (value.under guise).complexQuantity? = value.complexQuantity? := by
  cases value <;> rfl

theorem is_signalling_under (value : Value) :
    (value.under guise).isSignalling = value.isSignalling := by
  cases value with
  | decimal x cell => cases x <;> rfl
  | _ => rfl

theorem is_decimal_under (value : Value) : (value.under guise).isDecimal = value.isDecimal := by
  cases value <;> rfl

theorem same_number_under (value other : Value) :
    (value.under guise).sameNumber? (other.under guise) = value.sameNumber? other := by
  unfold sameNumber?
  simp only [complex_quantity_under, is_signalling_under]

variable {guise} {base store store' : Store} (links : guise.Links base store store')
include links

theorem octets_under (value : Value) :
    (value.under guise).octets? store' = value.octets? store := by
  cases value with
  | buffer content cell => exact congrArg some (links.held content cell)
  | _ => rfl

theorem same_simple_under (value other : Value) :
    (value.under guise).sameSimple store' (other.under guise) = value.sameSimple store other := by
  unfold sameSimple
  rw [octets_under links, octets_under links]
  cases value with
  | stream items failure cell => cases other <;> simp [Value.under]
  | array derived items cell => cases other <;> simp [Value.under]
  | routine callee => cases other <;> simp [Value.under]
  | object host => cases other <;> simp [Value.under]
  | missing | null | text _ | date _ _ _ | range _ _ _ => cases other <;> rfl
  | _ => rfl

def Test.seen (guise : Guise) (test : Test) : Test := fun other => test (other.under guise)

omit links in
theorem pass_each_under (tests : List Test) (items : List Value) :
    passEach tests (items.map (Value.under guise)) =
      passEach (tests.map (Test.seen guise)) items := by
  induction tests generalizing items with
  | nil => cases items <;> rfl
  | cons test tests induction =>
      cases items with
      | nil => rfl
      | cons item items =>
          simp only [List.map_cons, passEach, induction]
          rfl

omit links in
theorem pass_any_under (test : Test) (items : List Value) :
    passAny test (items.map (Value.under guise)) = passAny (Test.seen guise test) items := by
  induction items with
  | nil => rfl
  | cons item items induction =>
      simp only [List.map_cons, passAny, induction]
      rfl

omit links in
theorem pass_subset_under (tests : List Test) (others : List Value) :
    passSubset (others.map (Value.under guise)) tests =
      passSubset others (tests.map (Test.seen guise)) := by
  induction tests with
  | nil => rfl
  | cons test tests induction => simp only [List.map_cons, passSubset, induction, pass_any_under]

omit links in
theorem pass_entry_under (key value : Test) (entries : List (Value × Value)) :
    passEntry key value (entries.map (Prod.map (Value.under guise) (Value.under guise))) =
      passEntry (Test.seen guise key) (Test.seen guise value) entries := by
  induction entries with
  | nil => rfl
  | cons entry entries induction =>
      simp only [List.map_cons, passEntry, induction]
      rfl

omit links in
theorem pass_entries_under (tests : List (Test × Test)) (others : List (Value × Value)) :
    passEntries (others.map (Prod.map (Value.under guise) (Value.under guise))) tests =
      passEntries others (tests.map (Prod.map (Test.seen guise) (Test.seen guise))) := by
  induction tests with
  | nil => rfl
  | cons test tests induction =>
      obtain ⟨key, value⟩ := test
      simp only [List.map_cons, passEntries, induction, pass_entry_under, Prod.map]

theorem same_leaf_under (value : Value) :
    (fun other => if value.isIdentical other then .ok true
      else (value.sameNumber? other).getD (.ok (value.sameSimple store other))) =
    Test.seen guise fun other => if (value.under guise).isIdentical other then .ok true
      else ((value.under guise).sameNumber? other).getD
        (.ok ((value.under guise).sameSimple store' other)) := by
  funext other
  simp only [Test.seen, is_identical_under, same_number_under, same_simple_under links]

omit links in
mutual
theorem same_under (links : guise.Links base store store') (value : Value) :
    Test.seen guise ((value.under guise).same store') = value.same store := by
  match value with
  | .tuple items =>
      have each := same_each_under links items
      funext other
      cases other with
      | tuple others =>
          simp only [Test.seen, Value.under, same, under_each_eq, pass_each_under, each]
      | _ => rfl
  | .list items cell =>
      -- The cell tells which items take part and in which order, and each item brings its test.
      have tests : (store'.held (sameEach store' (items.map (Value.under guise)))
          (guise.order cell)).map (Test.seen guise) = store.held (sameEach store items) cell := by
        rw [links.held, ← Store.held_map, same_each_under links items]
      have lengths := congrArg List.length tests
      rw [List.length_map] at lengths
      funext other
      cases other with
      | list others cell' =>
          simp only [Test.seen, Value.under, same, under_each_eq, links.held (others.map _),
            Store.held_map, List.length_map, pass_each_under, tests, lengths]
      | _ => rfl
  | .set items =>
      have each := same_each_under links items
      have lengths := congrArg List.length each
      rw [List.length_map] at lengths
      funext other
      cases other with
      | set others =>
          simp only [Test.seen, Value.under, same, under_each_eq, pass_subset_under, each,
            List.length_map, lengths]
      | _ => rfl
  | .mapping _ entries =>
      have each := same_entries_under links entries
      have lengths := congrArg List.length each
      rw [List.length_map] at lengths
      funext other
      cases other with
      | mapping _ others =>
          simp only [Test.seen, Value.under, same, under_entries_eq, pass_entries_under, each,
            List.length_map, lengths]
      | _ => rfl
  | .missing | .null | .bool _ | .int _ | .float _ _ | .decimal _ _ | .fraction _ _
  | .complex _ _ _ | .text _ | .octets _ | .buffer _ _ | .date _ _ _ | .range _ _ _
  | .stream _ _ _ | .array _ _ _ | .routine _ | .object _ =>
      unfold same
      exact (same_leaf_under links _).symm
  termination_by structural value
theorem same_each_under (links : guise.Links base store store') (items : List Value) :
    (sameEach store' (items.map (Value.under guise))).map (Test.seen guise) =
      sameEach store items := by
  match items with
  | [] => rfl
  | item :: rest =>
      simp only [List.map_cons, sameEach]
      rw [same_under links item, same_each_under links rest]
  termination_by structural items
theorem same_entries_under (links : guise.Links base store store')
    (entries : List (Value × Value)) :
    (sameEntries store' (entries.map (Prod.map (Value.under guise) (Value.under guise)))).map
        (Prod.map (Test.seen guise) (Test.seen guise)) =
      sameEntries store entries := by
  match entries with
  | [] => rfl
  | (key, value) :: rest =>
      simp only [List.map_cons, Prod.map, sameEntries]
      rw [same_under links key, same_under links value]
      exact congrArg _ (same_entries_under links rest)
  termination_by structural entries
end

theorem less_simple_under (value other : Value) :
    lessSimple store' (value.under guise) (other.under guise) = lessSimple store value other := by
  unfold lessSimple
  simp only [quantity_under, is_decimal_under, octets_under links]
  cases value with
  | text _ | date _ _ _ => cases other <;> rfl
  | _ => rfl

def Comparison.seen (guise : Guise) (comparison : Comparison) : Comparison :=
  ⟨Test.seen guise comparison.same, Test.seen guise comparison.less⟩

omit links in
theorem less_sequence_under (comparisons : List Comparison) (items : List Value) :
    lessSequence comparisons (items.map (Value.under guise)) =
      lessSequence (comparisons.map (Comparison.seen guise)) items := by
  induction comparisons generalizing items with
  | nil => cases items <;> rfl
  | cons comparison comparisons induction =>
      cases items with
      | nil => rfl
      | cons item items =>
          simp only [List.map_cons, lessSequence, induction]
          rfl

theorem less_leaf_under (value : Value) :
    (fun other => lessSimple store value other) =
      Test.seen guise fun other => lessSimple store' (value.under guise) other :=
  funext fun other => (less_simple_under links value other).symm

omit links in
mutual
theorem less_under (links : guise.Links base store store') (value : Value) :
    Test.seen guise ((value.under guise).less store') = value.less store := by
  match value with
  | .tuple items =>
      have each := compare_each_under links items
      funext other
      cases other with
      | tuple others =>
          simp only [Test.seen, Value.under, less, under_each_eq, less_sequence_under, each]
      | _ => rfl
  | .list items cell =>
      have comparisons : (store'.held (compareEach store' (items.map (Value.under guise)))
          (guise.order cell)).map (Comparison.seen guise) =
            store.held (compareEach store items) cell := by
        rw [links.held, ← Store.held_map, compare_each_under links items]
      funext other
      cases other with
      | list others cell' =>
          simp only [Test.seen, Value.under, less, under_each_eq, links.held (others.map _),
            Store.held_map, less_sequence_under, comparisons]
      | _ => rfl
  | .set items =>
      have each := same_each_under links items
      have lengths := congrArg List.length each
      rw [List.length_map] at lengths
      funext other
      cases other with
      | set others =>
          simp only [Test.seen, Value.under, less, under_each_eq, pass_subset_under, each,
            List.length_map, lengths]
      | _ => rfl
  | .missing | .null | .bool _ | .int _ | .float _ _ | .decimal _ _ | .fraction _ _
  | .complex _ _ _ | .text _ | .octets _ | .buffer _ _ | .date _ _ _ | .range _ _ _
  | .mapping _ _ | .stream _ _ _ | .array _ _ _ | .routine _ | .object _ =>
      unfold less
      exact (less_leaf_under links _).symm
  termination_by structural value
theorem compare_each_under (links : guise.Links base store store') (items : List Value) :
    (compareEach store' (items.map (Value.under guise))).map (Comparison.seen guise) =
      compareEach store items := by
  match items with
  | [] => rfl
  | item :: rest =>
      simp only [List.map_cons, compareEach, Comparison.seen]
      rw [same_under links item, less_under links item]
      exact congrArg _ (compare_each_under links rest)
  termination_by structural items
end

theorem is_true_under (value : Value) :
    (value.under guise).isTrue store' = value.isTrue store := by
  cases value with
  | buffer content cell => simp only [Value.under, isTrue, links.order]
  | list items cell => simp only [Value.under, isTrue, links.order]
  | tuple items => simp only [Value.under, isTrue, under_each_eq, List.isEmpty_map]
  | set items => simp only [Value.under, isTrue, under_each_eq, List.isEmpty_map]
  | mapping form entries => simp only [Value.under, isTrue, under_entries_eq, List.isEmpty_map]
  | object host => simp only [Value.under, isTrue, under_host_length]
  | _ => rfl

theorem length_under (value : Value) :
    (value.under guise).length? store' = value.length? store := by
  cases value with
  | list items cell => simp only [Value.under, length?, links.order]
  | tuple items => simp only [Value.under, length?, under_each_eq, List.length_map]
  | set items => simp only [Value.under, length?, under_each_eq, List.length_map]
  | object host => simp only [Value.under, length?, under_host_length]
  | _ => rfl

omit links in
mutual
theorem quoted_under (links : guise.Links base store store') (value : Value) :
    (value.under guise).quoted store' = value.quoted store := by
  match value with
  | .buffer content cell => simp only [Value.under, quoted, links.held]
  | .tuple items =>
      simp only [Value.under, quoted, under_each_eq, quoted_each_under links items]
  | .set items =>
      simp only [Value.under, quoted, under_each_eq, quoted_each_under links items]
  | .list items cell =>
      simp only [Value.under, quoted, under_each_eq, quoted_each_under links items, links.held]
  | .mapping form entries =>
      simp only [Value.under, quoted, under_entries_eq, quoted_entries_under links entries]
  | .object host => simp only [Value.under, quoted, under_host_quoted]
  | .missing | .null | .bool _ | .int _ | .float _ _ | .decimal _ _ | .fraction _ _
  | .complex _ _ _ | .text _ | .octets _ | .date _ _ _ | .range _ _ _ | .stream _ _ _
  | .array _ _ _ | .routine _ => rfl
  termination_by structural value
theorem quoted_each_under (links : guise.Links base store store') (items : List Value) :
    quotedEach store' (items.map (Value.under guise)) = quotedEach store items := by
  match items with
  | [] => rfl
  | item :: rest =>
      simp only [List.map_cons, quotedEach]
      rw [quoted_under links item, quoted_each_under links rest]
  termination_by structural items
theorem quoted_entries_under (links : guise.Links base store store')
    (entries : List (Value × Value)) :
    quotedEntries store' (entries.map (Prod.map (Value.under guise) (Value.under guise))) =
      quotedEntries store entries := by
  match entries with
  | [] => rfl
  | (key, value) :: rest =>
      simp only [List.map_cons, Prod.map, quotedEntries]
      rw [quoted_under links key, quoted_under links value]
      exact congrArg _ (quoted_entries_under links rest)
  termination_by structural entries
end

theorem plain_under (value : Value) : (value.under guise).plain store' = value.plain store := by
  have quoted := quoted_under links value
  cases value with
  | mapping form entries =>
      cases form with
      | view => exact quoted_under links (.mapping .dictionary entries)
      | dictionary | custom => exact quoted
  | object host => simp only [Value.under, plain, under_host_text]
  | text _ | decimal _ _ | fraction _ _ | date _ _ _ => rfl
  | _ => exact quoted

theorem written_under (value : Value) :
    (value.under guise).written store' = value.written store := by
  have plain := plain_under links value
  cases value with
  | buffer content cell => simp only [Value.under, written, links.held]
  | bool _ | octets _ => rfl
  | _ => exact plain

end Value

end Mustache
