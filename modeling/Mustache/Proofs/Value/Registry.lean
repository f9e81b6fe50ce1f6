import Mathlib.Data.List.Induction
import Mathlib.Data.List.Nodup
import Mustache.Value.Adapters

/-!
Registries by what has been done to them. A type is listed if what was done last with it is a
registration, its adapter is the one of that registration, and its place is decided by the first
registration since it was last taken out. So the order of registrations matters only to values that
belong to several listed types. Nothing is asked of the types themselves: values may belong to any
number of them.
-/

namespace Mustache

set_option autoImplicit false

inductive Operation (τ α : Type) where
  | register (type : τ) (adapter : α)
  | unregister (type : τ)
  deriving DecidableEq, Repr

variable {τ α : Type}

namespace Operation

def type : Operation τ α → τ
  | register type _ => type
  | unregister type => type

def adapter? : Operation τ α → Option α
  | register _ adapter => some adapter
  | unregister _ => none

end Operation

namespace Roster

variable [DecidableEq τ]

def perform (roster : Roster τ α) : Operation τ α → Roster τ α
  | .register type adapter => roster.register type adapter
  | .unregister type => roster.unregister type

def after (history : List (Operation τ α)) : Roster τ α := history.foldl perform ⟨[]⟩

/-- The adapter of the last registration of a type, unless it has been taken out since. -/
def latest? (history : List (Operation τ α)) (type : τ) : Option α :=
  ((history.filter (·.type = type)).getLast?).bind Operation.adapter?

/-- The place in the history of the registration by which a type has come in: it was not listed
before, and has not been taken out since. -/
def EntersAt (history : List (Operation τ α)) (type : τ) (place : Nat) : Prop :=
  ∃ before adapter later, history = before ++ .register type adapter :: later ∧
    place = before.length ∧ latest? before type = none ∧ .unregister type ∉ later

def Reordered (history other : List (Operation τ α)) : Prop :=
  ∀ type, history.filter (·.type = type) = other.filter (·.type = type)

section Steps

variable (roster : Roster τ α) (type other : τ) (adapter : α)

theorem register_types : (roster.register type adapter).types =
    if type ∈ roster.types then roster.types else roster.types ++ [type] := by
  unfold register types
  induction roster.entries with
  | nil => rfl
  | cons entry rest induction =>
      by_cases same : entry.1 = type
      · simp [registerIn, same]
      · have apart : type ≠ entry.1 := Ne.symm same
        simp only [registerIn, same, if_false, List.map_cons, induction, List.mem_cons, apart,
          false_or]
        split <;> rfl

theorem unregister_types :
    (roster.unregister type).types = roster.types.filter (· ≠ type) := by
  unfold unregister types
  rw [List.filter_map]
  congr 1
  apply List.filter_congr
  intro entry _
  simp [bne, Bool.beq_eq_decide_eq]

theorem unregister_absent {roster : Roster τ α} {type : τ} (absent : type ∉ roster.types) :
    roster.unregister type = roster := by
  have kept : (roster.entries.filter fun entry => entry.1 != type) = roster.entries := by
    rw [List.filter_eq_self]
    intro entry member
    have apart : entry.1 ≠ type := by
      rintro rfl
      exact absent (List.mem_map_of_mem member)
    simpa using apart
  unfold unregister
  rw [kept]

theorem register_lookup : (roster.register type adapter).entries.lookup other =
    if other = type then some adapter else roster.entries.lookup other := by
  unfold register
  induction roster.entries with
  | nil =>
      by_cases same : other = type
      · simp [registerIn, same]
      · simp [registerIn, List.lookup_cons, beq_false_of_ne same, same]
  | cons entry rest induction =>
      obtain ⟨listed, own⟩ := entry
      by_cases here : listed = type
      · subst here
        by_cases same : other = listed
        · simp [registerIn, same]
        · simp [registerIn, List.lookup_cons, beq_false_of_ne same, same]
      · by_cases there : other = listed
        · subst there
          simp [registerIn, here]
        · simp only [registerIn, here, if_false, List.lookup_cons, beq_false_of_ne there, induction]

theorem unregister_lookup : (roster.unregister type).entries.lookup other =
    if other = type then none else roster.entries.lookup other := by
  unfold unregister
  induction roster.entries with
  | nil => simp
  | cons entry rest induction =>
      obtain ⟨listed, own⟩ := entry
      by_cases here : listed = type
      · subst here
        have dropped : (((listed, own) :: rest).filter fun entry => entry.1 != listed) =
            rest.filter fun entry => entry.1 != listed := by simp
        rw [dropped, induction, List.lookup_cons]
        by_cases same : other = listed
        · rw [if_pos same, if_pos same]
        · rw [if_neg same, if_neg same, beq_false_of_ne same]
      · by_cases there : other = listed
        · subst there
          simp [here]
        · simp [here, List.lookup_cons, beq_false_of_ne there, induction]

end Steps

theorem mem_types_iff (roster : Roster τ α) (type : τ) :
    type ∈ roster.types ↔ ∃ adapter, roster.entries.lookup type = some adapter := by
  unfold types
  induction roster.entries with
  | nil => simp
  | cons entry rest induction =>
      obtain ⟨listed, own⟩ := entry
      by_cases same : type = listed
      · simp [same]
      · simp [List.lookup_cons, beq_false_of_ne same, same, ← induction]

/-- Where no type is listed twice, the adapter for a value is the one of the first listed type that
it belongs to. -/
theorem adapter_where_eq {roster : Roster τ α} (distinct : roster.types.Nodup) (holds : τ → Bool) :
    roster.adapterWhere? holds = (roster.types.find? holds).bind (roster.entries.lookup ·) := by
  unfold types at distinct
  unfold adapterWhere? types
  induction entries : roster.entries generalizing roster with
  | nil => rfl
  | cons entry rest induction =>
      obtain ⟨listed, own⟩ := entry
      rw [entries] at distinct
      obtain ⟨new, others⟩ := List.nodup_cons.mp distinct
      cases belongs : holds listed with
      | true => simp [belongs]
      | false =>
          simp only [List.find?_cons, belongs, List.map_cons]
          rw [@induction ⟨rest⟩ others rfl]
          cases found : (rest.map (·.1)).find? holds with
          | none => rfl
          | some type =>
              have apart : type ≠ listed := by
                rintro rfl
                exact new (List.mem_of_find?_eq_some found)
              simp [List.lookup_cons, beq_false_of_ne apart]

section Runs

variable (history : List (Operation τ α)) (operation : Operation τ α) (type : τ)

theorem after_snoc : after (history ++ [operation]) = (after history).perform operation :=
  List.foldl_concat _ _ _ _

theorem latest_snoc : latest? (history ++ [operation]) type =
    if operation.type = type then operation.adapter? else latest? history type := by
  unfold latest?
  by_cases same : operation.type = type
  · simp [List.filter_append, same]
  · simp [List.filter_append, same]

theorem distinct_types : (after history).types.Nodup := by
  induction history using List.reverseRecOn with
  | nil => exact List.nodup_nil
  | append_singleton history operation induction =>
      rw [after_snoc]
      cases operation with
      | register type adapter =>
          rw [perform, register_types]
          split
          · exact induction
          · next absent => exact List.concat_eq_append ▸ induction.concat absent
      | unregister type =>
          rw [perform, unregister_types]
          exact induction.filter _

theorem after_lookup : (after history).entries.lookup type = latest? history type := by
  induction history using List.reverseRecOn with
  | nil => rfl
  | append_singleton history operation induction =>
      rw [after_snoc, latest_snoc]
      cases operation with
      | register other adapter =>
          rw [perform, register_lookup, induction]
          simp only [Operation.type, Operation.adapter?, eq_comm]
      | unregister other =>
          rw [perform, unregister_lookup, induction]
          simp only [Operation.type, Operation.adapter?, eq_comm]

theorem listed_iff :
    type ∈ (after history).types ↔ ∃ adapter, latest? history type = some adapter := by
  rw [mem_types_iff, after_lookup]

theorem after_adapter (holds : τ → Bool) : (after history).adapterWhere? holds =
    ((after history).types.find? holds).bind (latest? history) := by
  rw [adapter_where_eq (distinct_types history)]
  congr 1
  funext type
  exact after_lookup history type

end Runs

section Places

variable {history : List (Operation τ α)} {operation : Operation τ α} {type : τ} {place : Nat}

theorem EntersAt.before (enters : EntersAt history type place) : place < history.length := by
  obtain ⟨before, adapter, later, rfl, rfl, _⟩ := enters
  simp

theorem EntersAt.snoc (enters : EntersAt history type place)
    (kept : operation ≠ .unregister type) : EntersAt (history ++ [operation]) type place := by
  obtain ⟨before, adapter, later, rfl, rfl, new, stays⟩ := enters
  refine ⟨before, adapter, later ++ [operation], by simp, rfl, new, ?_⟩
  simp [stays, kept.symm]

theorem types_in_order (history : List (Operation τ α)) :
    ∃ placed : List (τ × Nat), (after history).types = placed.map (·.1) ∧
      (∀ entry ∈ placed, EntersAt history entry.1 entry.2) ∧
        placed.Pairwise (·.2 < ·.2) := by
  induction history using List.reverseRecOn with
  | nil => exact ⟨[], rfl, nofun, .nil⟩
  | append_singleton history operation induction =>
      obtain ⟨placed, listed, enter, ordered⟩ := induction
      rw [after_snoc]
      cases operation with
      | register type adapter =>
          have kept : ∀ entry ∈ placed,
              EntersAt (history ++ [.register type adapter]) entry.1 entry.2 :=
            fun entry member => (enter entry member).snoc nofun
          rw [perform, register_types]
          split
          · exact ⟨placed, listed, kept, ordered⟩
          · next absent =>
              -- The type comes in now, behind all others.
              have new : latest? history type = none := by
                rw [listed_iff] at absent
                simpa [Option.eq_none_iff_forall_ne_some] using absent
              have here : EntersAt (history ++ [.register type adapter]) type history.length :=
                ⟨history, adapter, [], rfl, rfl, new, List.not_mem_nil⟩
              refine ⟨placed ++ [(type, history.length)], ?_, ?_, ?_⟩
              · rw [listed, List.map_append, List.map_singleton]
              · intro entry member
                rcases List.mem_append.mp member with old | last
                · exact kept entry old
                · obtain rfl := List.mem_singleton.mp last
                  exact here
              · rw [List.pairwise_append]
                refine ⟨ordered, List.pairwise_singleton _ _, ?_⟩
                intro entry member last same
                obtain rfl := List.mem_singleton.mp same
                exact (enter entry member).before
      | unregister type =>
          rw [perform, unregister_types, listed]
          refine ⟨placed.filter (·.1 ≠ type), ?_, ?_, ordered.filter _⟩
          · rw [List.filter_map]
            rfl
          · intro entry member
            obtain ⟨old, apart⟩ := List.mem_filter.mp member
            have other : entry.1 ≠ type := by simpa using apart
            exact (enter entry old).snoc fun same => other (Operation.unregister.inj same).symm

end Places

section Reordering

variable {history other : List (Operation τ α)}

theorem Reordered.latest (reordered : Reordered history other) :
    latest? other = latest? history := by
  funext type
  unfold latest?
  rw [reordered type]

theorem Reordered.mem_iff (reordered : Reordered history other) (type : τ) :
    type ∈ (after other).types ↔ type ∈ (after history).types := by
  rw [listed_iff, listed_iff, reordered.latest]

/-- A value that belongs to one listed type only gets the adapter of that type, in whatever place
the type is. -/
theorem Reordered.adapter (reordered : Reordered history other) {holds : τ → Bool}
    (single : ∀ first ∈ (after history).types, ∀ second ∈ (after history).types,
      holds first = true → holds second = true → first = second) :
    (after other).adapterWhere? holds = (after history).adapterWhere? holds := by
  rw [after_adapter, after_adapter, reordered.latest]
  congr 1
  cases found : (after history).types.find? holds with
  | none =>
      rw [List.find?_eq_none] at found ⊢
      exact fun type member => found type ((reordered.mem_iff type).mp member)
  | some type =>
      have listed := List.mem_of_find?_eq_some found
      have belongs := List.find?_some found
      cases again : (after other).types.find? holds with
      | none =>
          rw [List.find?_eq_none] at again
          exact (again type ((reordered.mem_iff type).mpr listed) belongs).elim
      | some next =>
          have member := (reordered.mem_iff next).mp (List.mem_of_find?_eq_some again)
          rw [single next member type listed (List.find?_some again) belongs]

/-- Operations on different types can be put into any order. -/
theorem reordered_of_perm {moved others : List (Operation τ α)} (perm : moved.Perm others)
    (distinct : (moved.map Operation.type).Nodup) (before later : List (Operation τ α)) :
    Reordered (before ++ moved ++ later) (before ++ others ++ later) := by
  intro type
  have same : moved.filter (·.type = type) = others.filter (·.type = type) := by
    have few : (moved.filter (·.type = type)).length ≤ 1 := by
      rw [← List.countP_eq_length_filter]
      have counted := List.nodup_iff_count_le_one.mp distinct type
      rw [List.count, List.countP_map] at counted
      simpa [Function.comp_def, Bool.beq_eq_decide_eq] using counted
    have moves := perm.filter (·.type = type)
    match alone : moved.filter (·.type = type) with
    | [] =>
        rw [alone] at moves
        exact alone.trans moves.nil_eq
    | [operation] =>
        rw [alone] at moves
        exact alone.trans (List.perm_singleton.mp moves.symm).symm
    | _ :: _ :: _ =>
        rw [alone] at few
        simp at few
  simp only [List.filter_append, same]

end Reordering

/-- After any history the listed types are those that were registered last, each once and in the
order in which they came in. A value gets the adapter that was registered last for the first of them
that it belongs to. So the order in which different types are registered shows only to values that
belong to two of them. -/
theorem types_keep_their_places {ν : Type} (holds : τ → ν → Bool)
    (history : List (Operation τ α)) :
    let registry := after history
    registry.types.Nodup ∧
    (∀ type, type ∈ registry.types ↔ ∃ adapter,
      (history.filter (·.type = type)).getLast? = some (.register type adapter)) ∧
    (∃ placed : List (τ × Nat), registry.types = placed.map (·.1) ∧
      (∀ entry ∈ placed, EntersAt history entry.1 entry.2) ∧ placed.Pairwise (·.2 < ·.2)) ∧
    (∀ type adapter,
      (type ∈ registry.types → (registry.register type adapter).types = registry.types) ∧
      ((registry.unregister type).register type adapter).types =
        registry.types.filter (· ≠ type) ++ [type] ∧
      (type ∉ registry.types → registry.unregister type = registry)) ∧
    (∀ value, registry.adapterWhere? (holds · value) =
      (registry.types.find? (holds · value)).bind (latest? history)) ∧
    (∀ other, Reordered history other → ∀ value,
      (after other).adapterWhere? (holds · value) ≠ registry.adapterWhere? (holds · value) →
        ∃ first ∈ registry.types, ∃ second ∈ registry.types, first ≠ second ∧
          holds first value = true ∧ holds second value = true) ∧
    ∀ before moved others later, history = before ++ moved ++ later → moved.Perm others →
      (moved.map Operation.type).Nodup → Reordered history (before ++ others ++ later) := by
  intro registry
  refine ⟨distinct_types history, ?_, types_in_order history, ?_,
    fun value => after_adapter history _, ?_, ?_⟩
  · intro type
    have own (operation : Operation τ α)
        (last : (history.filter (·.type = type)).getLast? = some operation) :
        operation.type = type := by
      simpa using (List.mem_filter.mp (List.mem_of_getLast? last)).2
    rw [listed_iff]
    unfold latest?
    cases last : (history.filter (·.type = type)).getLast? with
    | none => simp
    | some operation =>
        cases operation with
        | register other adapter =>
            obtain rfl : other = type := own _ last
            simp [Operation.adapter?]
        | unregister other => simp [Operation.adapter?]
  · intro type adapter
    refine ⟨fun listed => ?_, ?_, fun absent => ?_⟩
    · rw [register_types, if_pos listed]
    · rw [register_types, unregister_types, if_neg (by simp)]
    · exact unregister_absent absent
  · intro other reordered value differs
    by_contra alone
    push Not at alone
    apply differs
    apply reordered.adapter
    intro first member second next belongs too
    by_contra apart
    exact alone first member second next apart belongs too
  · rintro before moved others later rfl perm distinct
    exact reordered_of_perm perm distinct before later

end Roster

/-- A boolean is a whole number, too, and so it notices which of the two types is registered
first. -/
theorem reordering_shows_to_booleans :
    let history : List (Operation HostType String) :=
      [.register .array "elements", .register .int "plain", .register .bool "reverse"]
    let other : List (Operation HostType String) :=
      [.register .array "elements", .register .bool "reverse", .register .int "plain"]
    let roster := Roster.after history
    let asked (roster : Roster HostType String) := roster.adapterWhere? (·.holds (.bool true))
    Roster.Reordered history other ∧ asked roster = some "plain" ∧
      asked (Roster.after other) = some "reverse" ∧
      (roster.register .int "empty").types = roster.types ∧ roster.unregister .text = roster ∧
      ∃ first ∈ roster.types, ∃ second ∈ roster.types, first ≠ second ∧
        first.holds (.bool true) = true ∧ second.holds (.bool true) = true := by
  intro history other roster asked
  obtain ⟨_, _, _, steps, _, shows, moves⟩ := Roster.types_keep_their_places HostType.holds history
  have reordered : Roster.Reordered history other :=
    moves [.register .array "elements"] [.register .int "plain", .register .bool "reverse"]
      [.register .bool "reverse", .register .int "plain"] [] rfl (.swap _ _ _) (by decide)
  exact ⟨reordered, rfl, rfl, (steps .int "empty").1 (by decide),
    (steps .text "plain").2.2 (by decide), shows other reordered (.bool true) (by decide)⟩

end Mustache
