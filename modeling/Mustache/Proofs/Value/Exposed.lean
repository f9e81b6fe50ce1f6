import Mustache.Proofs.Value.Guise
import Mustache.Proofs.Value.Deeds

/-!
The cells that a value exposes: its own ones, and those of what it gives to whoever iterates over
it, calls it or asks it for a name that shows. A value looks the same in two guises that agree on the
cells it exposes.
-/

namespace Mustache

set_option autoImplicit false

section Sizes

variable {part : Value}

theorem size_of_entry {entries : List (Value × Value)}
    (member : part ∈ entries.map (·.1) ++ entries.map (·.2)) : sizeOf part < sizeOf entries := by
  rcases List.mem_append.mp member with member | member <;>
    obtain ⟨⟨key, value⟩, entry, rfl⟩ := List.mem_map.mp member <;>
    have smaller := List.sizeOf_lt_of_mem entry <;>
    rw [Prod.mk.sizeOf_spec] at smaller <;>
    dsimp only <;>
    omega

theorem size_of_named {named : List (String × Value)} (member : part ∈ named.map (·.2)) :
    sizeOf part < sizeOf named := by
  obtain ⟨⟨name, value⟩, entry, rfl⟩ := List.mem_map.mp member
  have smaller := List.sizeOf_lt_of_mem entry
  rw [Prod.mk.sizeOf_spec] at smaller
  dsimp only
  omega

theorem size_of_item {items : Option (List Value)} (member : part ∈ items.getD []) :
    sizeOf part < sizeOf items := by
  cases items with
  | none => cases member
  | some items =>
      have smaller := List.sizeOf_lt_of_mem member
      rw [Option.some.sizeOf_spec]
      dsimp only [Option.getD] at smaller
      omega

theorem size_of_replacing {replacing : Option (Routine Value)}
    (member : part ∈ replacing.toList.map Value.routine) :
    sizeOf part < sizeOf replacing + 1 := by
  obtain ⟨replace, own, rfl⟩ := List.mem_map.mp member
  cases Option.mem_toList.mp own
  simp only [Value.routine.sizeOf_spec, Option.some.sizeOf_spec]
  omega

/-- A routine as a member counts as a value of its own, one level below the object. -/
theorem size_of_member {members : List (String × Member Value)}
    (member : part ∈ members.map (·.2.part)) : sizeOf part < sizeOf members + 1 := by
  obtain ⟨⟨name, found⟩, entry, rfl⟩ := List.mem_map.mp member
  have smaller := List.sizeOf_lt_of_mem entry
  rw [Prod.mk.sizeOf_spec] at smaller
  cases found <;>
    simp only [Member.part, Value.routine.sizeOf_spec, Member.plain.sizeOf_spec,
      Member.static.sizeOf_spec, Member.classLevel.sizeOf_spec, Member.property.sizeOf_spec]
      at smaller ⊢ <;>
    omega

theorem size_of_part {value : Value} (member : part ∈ value.parts) :
    sizeOf part < sizeOf value := by
  cases value with
  | object host =>
      obtain ⟨cell, own, members, fallback, items, indexed, length, quoted, text, replacing⟩ := host
      rw [Value.object.sizeOf_spec, HostObject.mk.sizeOf_spec]
      simp only [Value.parts, HostObject.parts, List.mem_append] at member
      rcases member with ((((member | member) | member) | member) | member) | member
      · have smaller := size_of_named member
        omega
      · have smaller := size_of_member member
        omega
      · have smaller := size_of_named member
        omega
      · have smaller := size_of_item member
        omega
      · have smaller := size_of_item member
        omega
      · have smaller := size_of_replacing member
        omega
  | routine callee =>
      obtain ⟨cell, params, outcome, claimed⟩ := callee
      cases outcome with
      | returns result =>
          cases List.mem_singleton.mp member
          simp only [Value.routine.sizeOf_spec, Routine.mk.sizeOf_spec, Outcome.returns.sizeOf_spec]
          omega
      | _ => cases member
  | mapping form entries =>
      have smaller := size_of_entry member
      rw [Value.mapping.sizeOf_spec]
      omega
  | tuple items | set items =>
      have smaller := List.sizeOf_lt_of_mem member
      simp only [Value.tuple.sizeOf_spec, Value.set.sizeOf_spec, Value.parts] at smaller ⊢
      omega
  | list items cell | stream items failure cell | array derived items cell =>
      have smaller := List.sizeOf_lt_of_mem member
      simp only [Value.list.sizeOf_spec, Value.stream.sizeOf_spec, Value.array.sizeOf_spec,
        Value.parts] at smaller ⊢
      omega
  | _ => cases member

end Sizes

/-- Induction over what a value is made of. -/
theorem Value.part_induction {motive : Value → Prop}
    (step : ∀ value : Value, (∀ part ∈ value.parts, motive part) → motive value)
    (value : Value) : motive value :=
  step value fun part _ => part_induction step part
termination_by sizeOf value
decreasing_by exact size_of_part ‹_›

def HostObject.exposed (view : View) (host : HostObject Value) : List Value :=
  (host.own.filter (view.shows ·.1)).map (·.2) ++
    (host.members.filter (view.shows ·.1)).map (·.2.part) ++
    (host.fallback.filter (view.shows ·.1)).map (·.2) ++
    host.items.getD [] ++ host.indexed.getD [] ++ host.replacing.toList.map .routine

def Value.exposed (view : View) : Value → List Value
  | .object host => host.exposed view
  | value => value.parts

def Value.orderCells : Value → List Nat
  | .buffer _ cell | .list _ cell => [cell]
  | _ => []

def Value.counterCells : Value → List Nat
  | .float _ cell | .decimal _ cell | .complex _ _ cell => [cell]
  | .stream _ _ cell | .array _ _ cell => [cell]
  | .routine callee => [callee.cell]
  | .object host => [host.cell]
  | _ => []

/-- A cell belongs to a value or to something that the value exposes. -/
inductive Value.Exposes (view : View) (cells : Value → List Nat) (cell : Nat) : Value → Prop where
  | here {value : Value} : cell ∈ cells value → Exposes view cells cell value
  | inside {value part : Value} :
      part ∈ value.exposed view → Exposes view cells cell part → Exposes view cells cell value

theorem exposed_subset (view : View) (value : Value) : value.exposed view ⊆ value.parts := by
  cases value with
  | object host =>
      intro part member
      simp only [Value.exposed, HostObject.exposed, Value.parts, HostObject.parts,
        List.mem_append] at member ⊢
      have kept {α : Type} {named : List (String × α)} {give : String × α → Value}
          (member : part ∈ (named.filter (view.shows ·.1)).map give) : part ∈ named.map give :=
        List.map_subset give List.filter_sublist.subset member
      exact member.imp_left (.imp_left (.imp_left (.imp (.imp kept kept) kept)))
  | _ => exact fun _ member => member

section Agreeing

variable {guise other : Guise}

theorem under_member_congr {member : Member Value}
    (same : member.part.under guise = member.part.under other) :
    underMember guise member = underMember other member := by
  cases member with
  | plain value => exact congrArg Member.plain same
  | _ =>
      simp only [Member.part, Value.under, Value.routine.injEq] at same
      simp only [underMember, same]

theorem under_each_congr (items : List Value)
    (each : ∀ part ∈ items, part.under guise = part.under other) :
    underEach guise items = underEach other items := by
  rw [under_each_eq, under_each_eq]
  exact List.map_congr_left each

theorem under_entries_congr {entries : List (Value × Value)}
    (each : ∀ part ∈ entries.map (·.1) ++ entries.map (·.2), part.under guise = part.under other) :
    underEntries guise entries = underEntries other entries := by
  obtain ⟨keys, values⟩ := List.forall_mem_append.mp each
  rw [under_entries_eq, under_entries_eq]
  refine List.map_congr_left fun entry member => Prod.ext ?_ ?_
  · exact keys _ (List.mem_map_of_mem member)
  · exact values _ (List.mem_map_of_mem member)

theorem under_items_congr {items : Option (List Value)}
    (each : ∀ part ∈ items.getD [], part.under guise = part.under other) :
    underItems guise items = underItems other items := by
  cases items with
  | none => rfl
  | some items => exact congrArg some (under_each_congr items each)

theorem under_replacing_congr {replacing : Option (Routine Value)}
    (each : ∀ part ∈ replacing.toList.map Value.routine, part.under guise = part.under other) :
    underReplacing guise replacing = underReplacing other replacing := by
  cases replacing with
  | none => rfl
  | some replace =>
      have same := each (.routine replace) (.head _)
      simp only [Value.under, Value.routine.injEq] at same
      exact congrArg some same

section Viewed

variable {view : View} (viewed : guise.toView = view) (viewed' : other.toView = view)
include viewed viewed'

theorem under_named_congr {named : List (String × Value)}
    (each : ∀ part ∈ (named.filter (view.shows ·.1)).map (·.2),
      part.under guise = part.under other) :
    underNamed guise named = underNamed other named := by
  rw [under_named_eq, under_named_eq, viewed, viewed']
  refine List.map_congr_left fun entry member => Prod.ext rfl ?_
  exact each _ (List.mem_map_of_mem member)

theorem under_members_congr {members : List (String × Member Value)}
    (each : ∀ part ∈ (members.filter (view.shows ·.1)).map (·.2.part),
      part.under guise = part.under other) :
    underMembers guise members = underMembers other members := by
  rw [under_members_eq, under_members_eq, viewed, viewed']
  refine List.map_congr_left fun entry member => Prod.ext rfl ?_
  exact under_member_congr (each _ (List.mem_map_of_mem member))

theorem under_host_congr {host : HostObject Value}
    (cell : guise.counter host.cell = other.counter host.cell)
    (parts : ∀ part ∈ host.exposed view, part.under guise = part.under other) :
    underHost guise host = underHost other host := by
  obtain ⟨number, own, members, fallback, items, indexed, length, quoted, text, replacing⟩ := host
  unfold HostObject.exposed at parts
  simp only [List.forall_mem_append] at parts
  obtain ⟨⟨⟨⟨⟨owned, shared⟩, fallen⟩, iterated⟩, numbered⟩, replaced⟩ := parts
  unfold underHost
  rw [cell, under_named_congr viewed viewed' owned, under_members_congr viewed viewed' shared,
    under_named_congr viewed viewed' fallen, under_items_congr iterated,
    under_items_congr numbered, under_replacing_congr replaced]

theorem under_congr (value : Value)
    (orders : ∀ cell, value.Exposes view Value.orderCells cell →
      guise.order cell = other.order cell)
    (counters : ∀ cell, value.Exposes view Value.counterCells cell →
      guise.counter cell = other.counter cell) :
    value.under guise = value.under other := by
  induction value using Value.part_induction with
  | step value induction =>
      -- The induction is over all parts, since the hidden ones are parts as well; only those that
      -- are exposed are asked for.
      have parts : ∀ part ∈ value.exposed view, part.under guise = part.under other :=
        fun part member => induction part (exposed_subset view value member)
          (fun cell exposes => orders cell (.inside member exposes))
          (fun cell exposes => counters cell (.inside member exposes))
      have order : ∀ cell ∈ value.orderCells, guise.order cell = other.order cell :=
        fun cell member => orders cell (.here member)
      have counter : ∀ cell ∈ value.counterCells, guise.counter cell = other.counter cell :=
        fun cell member => counters cell (.here member)
      cases value with
      | float x cell | decimal x cell | complex real imaginary cell =>
          simp only [Value.under, counter cell (.head _)]
      | buffer content cell => simp only [Value.under, order cell (.head _)]
      | tuple items | set items => simp only [Value.under, under_each_congr items parts]
      | list items cell =>
          simp only [Value.under, order cell (.head _), under_each_congr items parts]
      | mapping form entries => simp only [Value.under, under_entries_congr parts]
      | stream items failure cell | array derived items cell =>
          simp only [Value.under, counter cell (.head _), under_each_congr items parts]
      | routine callee =>
          obtain ⟨cell, params, outcome, claimed⟩ := callee
          cases outcome with
          | returns result =>
              simp only [Value.under, underRoutine, underOutcome, counter cell (.head _),
                parts result (.head _)]
          | _ => simp only [Value.under, underRoutine, underOutcome, counter cell (.head _)]
      | object host =>
          simp only [Value.under, under_host_congr viewed viewed' (counter host.cell (.head _)) parts]
      | _ => rfl

end Viewed

end Agreeing

end Mustache
