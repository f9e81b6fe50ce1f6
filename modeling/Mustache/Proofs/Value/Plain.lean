import Mathlib.Data.Nat.Digits.Defs
import Mustache.Proofs.Invariant
import Mustache.Proofs.Value.Visited

/-!
Plain data: nulls, booleans, whole numbers, texts, and tuples, lists and dictionaries of them. As
long as no name asks for a member that texts, numbers and lists have by themselves, looking into
such data changes nothing and cannot fail.
-/

namespace Mustache

set_option autoImplicit false

/-- Texts, whole numbers and lists have nothing of this name that can be read, or called without
arguments. -/
structure Unclaimed (name : String) : Prop where
  text : ∀ content, ∀ builtin ∈ textMember? content name, builtin.used = pure .missing
  int : ∀ n, ∀ builtin ∈ intMember? n name, builtin.used = pure .missing
  list : ∀ items cell, ∀ builtin ∈ listMember? items cell name, builtin.used = pure .missing

theorem search_needs (name : String) :
    ∀ builtin ∈ searchMember? name, builtin.used = pure .missing := by
  unfold searchMember?
  split
  · rintro _ ⟨⟩
    rfl
  · rintro _ ⟨⟩
    rfl
  · nofun

/-- One of the plain types. Numbers are short enough to be written, and sequences to be measured. -/
def Value.PlainForm (store : Store) : Value → Prop
  | .null | .bool _ | .text _ | .mapping _ _ => True
  | .int n => (Nat.toDigits 10 n.natAbs).length ≤ digitLimit
  | .tuple items => items.length ≤ lengthLimit
  | .list _ cell => (store.order cell).size ≤ lengthLimit
  | _ => False

inductive Value.Plain (store : Store) : Value → Prop where
  | made {value : Value} (form : value.PlainForm store)
      (parts : ∀ part ∈ value.parts, Plain store part) : Plain store value

def Value.Known (store : Store) (value : Value) : Prop := value = .missing ∨ value.Plain store

abbrev Settles {α : Type} (store : Store) (good : α → Prop) (action : Access α) : Prop :=
  Keeps (· = store) Never good action

section Values

variable {store : Store}

theorem Value.plain_of_leaf {value : Value} (form : value.PlainForm store)
    (leaf : value.parts = []) : value.Plain store := by
  refine .made form ?_
  rw [leaf]
  exact List.forall_mem_nil _

theorem Value.plain_int {n : Nat} (short : n ≤ lengthLimit) : (Value.int n).Plain store := by
  have digits : (Nat.toDigits 10 n).length ≤ 19 := by
    apply Nat.toDigits_length 10 n 19 (by decide)
    have limit : lengthLimit < 10 ^ 19 := by decide
    omega
  exact plain_of_leaf (Nat.le_trans digits (by decide)) rfl

theorem find_entry_known {entries : List (Value × Value)}
    (each : ∀ entry ∈ entries, entry.2.Plain store) (name : String) :
    (findEntry entries name).Known store := by
  induction entries with
  | nil => exact .inl rfl
  | cons entry rest induction =>
      obtain ⟨first, others⟩ := List.forall_mem_cons.mp each
      unfold findEntry
      split
      · exact .inl rfl
      · next key value rest same =>
          cases same
          split
          · exact .inr first
          · exact induction others
      · next same =>
          cases same
          exact induction others

theorem lookup_settles {value : Value} (known : value.Known store) {name : String}
    (unclaimed : Unclaimed name) : Settles store (Value.Known store) (value.lookup name) := by
  have nothing : Settles store (Value.Known store) (pure .missing) := .of_pure (.inl rfl)
  have members {offered : Option Builtin}
      (idle : ∀ builtin ∈ offered, builtin.used = pure .missing) :
      Settles store (Value.Known store)
        (if isPublicName name then (offered.map Builtin.used).getD (pure .missing)
          else pure .missing) := by
    split
    · cases offered with
      | none => exact nothing
      | some builtin =>
          rw [Option.map_some, Option.getD_some, idle builtin rfl]
          exact nothing
    · exact nothing
  rcases known with rfl | ⟨form, parts⟩
  · exact nothing
  · cases value with
    | null => exact nothing
    | mapping kind entries =>
        refine .of_pure (find_entry_known ?_ name)
        intro entry member
        exact parts _ (List.mem_append_right _ (List.mem_map_of_mem member))
    | bool flag => exact members (unclaimed.int _)
    | int n => exact members (unclaimed.int n)
    | text content => exact members (unclaimed.text content.toList)
    | tuple items => exact members (search_needs name)
    | list items cell => exact members (unclaimed.list items cell)
    | _ => exact form.elim

theorem truth_settles {value : Value} (plain : value.Plain store) :
    Settles store (fun flag => value.isTrue store = .ok flag) value.truth := by
  apply Keeps.of_get
  rintro _ rfl
  obtain ⟨form, _⟩ := plain
  cases value with
  | null | bool _ | int _ | text _ | tuple _ | list _ _ | mapping _ _ => exact .of_pure rfl
  | _ => exact form.elim

theorem quoted_each_plain {items : List Value}
    (each : ∀ item ∈ items, Ensures Never Anything (item.quoted store)) :
    ∀ result ∈ quotedEach store items, Ensures Never Anything result := by
  induction items with
  | nil => exact List.forall_mem_nil _
  | cons item rest induction =>
      obtain ⟨first, others⟩ := List.forall_mem_cons.mp each
      exact List.forall_mem_cons.mpr ⟨first, induction others⟩

theorem quoted_entries_plain (entries : List (Value × Value))
    (keys : ∀ entry ∈ entries, Ensures Never Anything (entry.1.quoted store))
    (values : ∀ entry ∈ entries, Ensures Never Anything (entry.2.quoted store)) :
    ∀ result ∈ quotedEntries store entries, Ensures Never Anything result := by
  induction entries with
  | nil => exact List.forall_mem_nil _
  | cons entry rest induction =>
      obtain ⟨key, keys⟩ := List.forall_mem_cons.mp keys
      obtain ⟨value, values⟩ := List.forall_mem_cons.mp values
      refine List.forall_mem_cons.mpr ⟨?_, induction keys values⟩
      apply Ensures.of_bind key
      intro _ _
      exact .of_bind value fun _ _ => trivial

theorem quoted_plain {value : Value} (plain : value.Plain store) :
    Ensures Never Anything (value.quoted store) := by
  induction plain with
  | @made value form parts induction =>
      cases value with
      | null | bool _ | text _ => trivial
      | int n =>
          dsimp only [Value.quoted, writeInt]
          rw [if_neg (Nat.not_lt.mpr form)]
          trivial
      | tuple items =>
          exact .of_bind (Value.each_ensures (quoted_each_plain induction)) fun _ _ => trivial
      | list items cell =>
          exact .of_bind (Value.each_ensures fun result member =>
            quoted_each_plain induction result (Store.mem_of_mem_held member)) fun _ _ => trivial
      | mapping kind entries =>
          have each := Value.each_ensures (quoted_entries_plain entries
            (fun entry member => induction _ (List.mem_append_left _ (List.mem_map_of_mem member)))
            fun entry member => induction _ (List.mem_append_right _ (List.mem_map_of_mem member)))
          cases kind with
          | custom => trivial
          | dictionary => exact .of_bind each fun _ _ => trivial
          | view => exact .of_bind each fun _ _ => trivial
      | _ => exact form.elim

theorem Value.Plain.replacing {value : Value} (plain : value.Plain store) :
    value.replacing? = none := by
  obtain ⟨form, _⟩ := plain
  cases value with
  | object host => exact absurd form id
  | _ => rfl

theorem written_plain {value : Value} (plain : value.Plain store) :
    Ensures Never Anything (value.written store) := by
  have quoted := quoted_plain plain
  obtain ⟨form, parts⟩ := plain
  cases value with
  | text _ | bool _ => trivial
  | null | int _ | tuple _ | list _ _ => exact quoted
  | mapping kind entries =>
      cases kind with
      | dictionary | custom => exact quoted
      | view =>
          have same : (Value.mapping .dictionary entries).Plain store := .made trivial parts
          exact quoted_plain same
  | _ => exact form.elim

def Cursor.Plain (store : Store) : Cursor → Prop
  | .fixed rest => ∀ item ∈ rest, item.Plain store
  | .list items _ _ => ∀ item ∈ items.toList, item.Plain store
  | _ => False

theorem next_settles {cursor : Cursor} (plain : cursor.Plain store) :
    Settles store (fun following => ∀ delivered ∈ following,
      Value.Plain store delivered.1 ∧ Cursor.Plain store delivered.2) cursor.next := by
  cases cursor with
  | fixed rest =>
      cases rest with
      | nil => exact .of_pure nofun
      | cons item rest =>
          obtain ⟨first, others⟩ := List.forall_mem_cons.mp plain
          apply Keeps.of_pure
          rintro _ ⟨⟩
          exact ⟨first, others⟩
  | list items cell place =>
      apply Keeps.of_get
      rintro _ rfl
      apply Keeps.of_pure
      cases found : Cursor.itemAt? _ items cell place with
      | none => exact nofun
      | some item =>
          rintro _ ⟨⟩
          exact ⟨plain item (Cursor.item_of_place found), plain⟩
  | _ => exact plain.elim

theorem kind_of_plain {value : Value} (plain : value.Plain store) :
    value.kind .none = .sequence → (∃ items, value = .tuple items) ∨
      ∃ items cell, value = .list items cell := by
  obtain ⟨form, _⟩ := plain
  cases value with
  | tuple items => exact fun _ => .inl ⟨items, rfl⟩
  | list items cell => exact fun _ => .inr ⟨items, cell, rfl⟩
  | null | bool _ | int _ | text _ | mapping _ _ => nofun
  | _ => exact form.elim

theorem elements_settle {value : Value} (plain : value.Plain store)
    (kind : value.kind .none = .sequence) :
    Settles store (fun cursor => Cursor.Plain store cursor ∧ cursor.bound store ≤ lengthLimit)
      (value.elements .none) := by
  obtain ⟨items, rfl⟩ | ⟨items, cell, rfl⟩ := kind_of_plain plain kind
  · obtain ⟨form, parts⟩ := plain
    exact .of_pure ⟨parts, form⟩
  · obtain ⟨form, parts⟩ := plain
    exact .of_pure ⟨parts, form⟩

theorem falsy_settles {value : Value} (known : value.Known store) :
    Settles store Anything (value.isFalsy .none) := by
  have measured {value : Value} {length : Nat} (short : length ≤ lengthLimit)
      (measure : value.length? store = some (length : Int)) :
      Settles store Anything (value.isEmptySequence .none) := by
    rintro _ rfl
    have known : (if (Registry.none.adapterFor? value).isNone then value.length? _ else none) =
        some (length : Int) := measure
    rw [Value.empty_run, known, Option.elim_some, Value.check_length_short short]
    exact ⟨rfl, trivial⟩
  rcases known with rfl | ⟨form, _⟩
  · exact .of_pure trivial
  · cases value with
    | tuple items => exact measured form rfl
    | list items cell => exact measured form rfl
    | null | bool _ | int _ | text _ | mapping _ _ => exact .of_pure trivial
    | _ => exact form.elim

end Values

end Mustache
