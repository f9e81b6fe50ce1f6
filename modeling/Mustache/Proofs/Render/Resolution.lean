import Mustache.Proofs.Path
import Mustache.Proofs.Render.Isolation

/-!
Which frames a name is looked for in. A lookup can call what it finds and so change the store, so
what has been asked matters and not only what was found: the frames are asked one after the other
from the inside out, and the first that has the name is the last that is asked. The parts of a
dotted name behind its head ask no frame at all.
-/

namespace Mustache

set_option autoImplicit false

def Value.Means (value : Value) (flag : Bool) : Prop := ∀ store, value.isTrue store = .ok flag

theorem Value.eq_missing_of_is_missing {value : Value} (missing : value.isMissing = true) :
    value = .missing := by
  cases value <;> first | rfl | cases missing

/-- These frames are asked for a name, each once and in the store that the one before it has left.
All but the last do not have it; if the last does not have it either the name is missing. -/
inductive Asked (name : String) : List Frame → Store → Except Fault Value × Store → Prop where
  | nowhere (store : Store) : Asked name [] store (.ok .missing, store)
  | decides {frame : Frame} {store : Store} {run : Except Fault Value × Store}
      (looked : (frame.data.lookup name).run store = run) (found : run.1 ≠ .ok .missing) :
      Asked name [frame] store run
  | passes {frame : Frame} {frames : List Frame} {store between : Store}
      {run : Except Fault Value × Store}
      (missing : (frame.data.lookup name).run store = (.ok .missing, between))
      (onward : Asked name frames between run) : Asked name (frame :: frames) store run

namespace Scope

def frames (scope : Scope) : List Frame := scope.frame :: scope.enclosing

/-- The names that speak about the frame itself. -/
def ownNames : List String := [".", "this", "-first", "-last", "-index"]

end Scope

/-- One further part of a dotted name. What is missing stays so and is not looked into. -/
def lookupPart (value : Value) (part : String) : Access Value :=
  if value.isMissing then pure value else value.lookup part

section Chains

variable {mode : Value} {name : String} {frame : Frame} {frames others : List Frame}
  {store between : Store} {run : Except Fault Value × Store}

theorem lookup_chain_hit (looked : (frame.data.lookup name).run store = run)
    (found : run.1 ≠ .ok .missing) :
    (lookupChain mode name (frame :: frames)).run store = run := by
  unfold lookupChain
  rw [Action.run_bind, looked]
  rcases run with ⟨outcome, later⟩
  cases outcome with
  | error fault => rfl
  | ok value =>
      have there : value.isMissing = false := by
        cases missing : value.isMissing with
        | false => rfl
        | true => exact absurd (congrArg Except.ok (Value.eq_missing_of_is_missing missing)) found
      simp only [there, Bool.not_false, if_true]
      rfl

theorem lookup_chain_miss {flag : Bool} (means : mode.Means flag)
    (missing : (frame.data.lookup name).run store = (.ok .missing, between)) :
    (lookupChain mode name (frame :: frames)).run store =
      if flag then (.ok .missing, between) else (lookupChain mode name frames).run between := by
  conv => lhs; unfold lookupChain
  rw [Action.run_bind_ok missing]
  change (mode.truth >>= _ : Access Value).run between = _
  rw [Action.run_bind, mode.truth_run, means between]
  cases flag <;> rfl

/-- Whatever is behind the frames that were asked cannot be told from nothing, once the name has
been found. -/
theorem Asked.lookup_chain (lenient : mode.Means false) (asked : Asked name frames store run)
    (last : run.1 = .ok .missing → others = []) :
    (lookupChain mode name (frames ++ others)).run store = run := by
  induction asked with
  | nowhere store =>
      rw [last rfl]
      rfl
  | decides looked found => exact lookup_chain_hit looked found
  | passes missing _ induction =>
      rw [List.cons_append, lookup_chain_miss lenient missing]
      exact induction last

theorem lookup_chain_alone (standards : mode.Means true) (name : String) (frame : Frame)
    (store : Store) : ∃ run, Asked name [frame] store run ∧
      ∀ enclosing, (lookupChain mode name (frame :: enclosing)).run store = run := by
  by_cases found : ((frame.data.lookup name).run store).1 = .ok .missing
  · have missing : (frame.data.lookup name).run store =
        (.ok .missing, ((frame.data.lookup name).run store).2) := Prod.ext found rfl
    exact ⟨_, .passes missing (.nowhere _), fun _ => lookup_chain_miss standards missing⟩
  · exact ⟨_, .decides rfl found, fun _ => lookup_chain_hit rfl found⟩

theorem exists_asked (name : String) (frames : List Frame) (store : Store) :
    ∃ asked unasked run, frames = asked ++ unasked ∧ Asked name asked store run ∧
      (run.1 = .ok .missing → unasked = []) := by
  induction frames generalizing store with
  | nil => exact ⟨[], [], _, rfl, .nowhere store, fun _ => rfl⟩
  | cons frame frames induction =>
      by_cases found : ((frame.data.lookup name).run store).1 = .ok .missing
      · have missing : (frame.data.lookup name).run store =
            (.ok .missing, ((frame.data.lookup name).run store).2) := Prod.ext found rfl
        obtain ⟨asked, unasked, run, split, asks, last⟩ :=
          induction ((frame.data.lookup name).run store).2
        exact ⟨frame :: asked, unasked, run, congrArg (frame :: ·) split, .passes missing asks, last⟩
      · exact ⟨[frame], frames, _, rfl, .decides rfl found, fun missing => absurd missing found⟩

/-- A frame that does not have the name, and is not changed by being asked for it, may stand
anywhere. -/
theorem lookup_chain_insert (lenient : mode.Means false) (before after : List Frame)
    (inert : ∀ between, Asked name before store (.ok .missing, between) →
      (frame.data.lookup name).run between = (.ok .missing, between)) :
    (lookupChain mode name (before ++ frame :: after)).run store =
      (lookupChain mode name (before ++ after)).run store := by
  induction before generalizing store with
  | nil =>
      exact lookup_chain_miss lenient (inert store (.nowhere store))
  | cons first before induction =>
      rw [List.cons_append, List.cons_append]
      by_cases found : ((first.data.lookup name).run store).1 = .ok .missing
      · have missing : (first.data.lookup name).run store =
            (.ok .missing, ((first.data.lookup name).run store).2) := Prod.ext found rfl
        rw [lookup_chain_miss lenient missing, lookup_chain_miss lenient missing]
        exact induction fun between asked => inert between (.passes missing asked)
      · rw [lookup_chain_hit rfl found, lookup_chain_hit rfl found]

end Chains

section Names

variable {head : String} {rest : List String}

theorem lookup_path_eq_fold (value : Value) (parts : List String) :
    lookupPath value parts = parts.foldlM lookupPart value := by
  induction parts generalizing value with
  | nil => rfl
  | cons part rest induction =>
      rw [List.foldlM_cons, lookupPath, lookupPart]
      cases missing : value.isMissing with
      | false => simp only [Bool.false_eq_true, if_false, induction]
      | true =>
          have absent (rest : List String) : rest.foldlM lookupPart value = pure value := by
            induction rest with
            | nil => rfl
            | cons part rest induction =>
                rw [List.foldlM_cons, lookupPart, if_pos missing, pure_bind, induction]
          rw [if_pos rfl, if_pos rfl, pure_bind, absent]

theorem name_parts_joined (plain : ∀ part ∈ head :: rest, '.' ∉ part.toList) :
    nameParts (".".intercalate (head :: rest)) = head :: rest := by
  have cut : Text.pieces (· = '.') (['.'].intercalate ((head :: rest).map String.toList)) =
      (head :: rest).map String.toList := by
    apply Text.pieces_intercalate (by simp)
    intro piece member
    obtain ⟨part, inside, rfl⟩ := List.mem_map.mp member
    exact plain part inside
  unfold nameParts
  rw [String.toList_intercalate]
  change (Text.pieces (· = '.') (['.'].intercalate _)).map String.ofList = _
  rw [cut, List.map_map]
  have same : String.ofList ∘ String.toList = id := funext fun _ => String.ofList_toList
  rw [same, List.map_id]

theorem Scope.resolve_joined (plain : ∀ part ∈ head :: rest, '.' ∉ part.toList)
    (other : ".".intercalate (head :: rest) ∉ ownNames) (scope : Scope) (mode : Value) :
    scope.resolve mode (".".intercalate (head :: rest)) =
      scope.find mode head >>= fun value => rest.foldlM lookupPart value := by
  simp only [ownNames, List.mem_cons, List.not_mem_nil, or_false, not_or] at other
  obtain ⟨dot, this, first, last, index⟩ := other
  unfold resolve
  rw [if_neg (by simp [dot, this]), if_neg first, if_neg last, if_neg index,
    name_parts_joined plain]
  exact congrArg (scope.find mode head >>= ·) (funext fun value => lookup_path_eq_fold value rest)

theorem Scope.resolve_run_congr (plain : ∀ part ∈ head :: rest, '.' ∉ part.toList)
    (other : ".".intercalate (head :: rest) ∉ ownNames) {scope wider : Scope} {mode : Value}
    {store : Store} (same : (wider.find mode head).run store = (scope.find mode head).run store) :
    (wider.resolve mode (".".intercalate (head :: rest))).run store =
      (scope.resolve mode (".".intercalate (head :: rest))).run store := by
  rw [wider.resolve_joined plain other, scope.resolve_joined plain other, Action.run_bind,
    Action.run_bind, same]

/-- A name that is none of those of the frame itself is looked for by its head, and the parts behind
the head are looked up one in the other. In standards mode the innermost frame alone is asked.
Otherwise the frames are asked from the inside out, up to the first that has the head; which frames
are behind it makes no difference, and neither does a frame that misses the head in silence. -/
theorem names_are_looked_for_from_inside (mode : Value) (head : String) (rest : List String)
    (plain : ∀ part ∈ head :: rest, '.' ∉ part.toList)
    (other : ".".intercalate (head :: rest) ∉ Scope.ownNames) (scope : Scope) (store : Store) :
    let name := ".".intercalate (head :: rest)
    (scope.resolve mode name =
      scope.find mode head >>= fun value => rest.foldlM lookupPart value) ∧
    (mode.Means true → ∃ run, Asked head [scope.frame] store run ∧
      ∀ enclosing, ((Scope.mk scope.frame enclosing).find mode head).run store = run) ∧
    (mode.Means false →
      (∃ asked unasked run, scope.frames = asked ++ unasked ∧ Asked head asked store run ∧
        (scope.find mode head).run store = run ∧
        (run.1 = .ok .missing → unasked = []) ∧
        (run.1 ≠ .ok .missing → ∀ wider : Scope, asked <+: wider.frames →
          (wider.find mode head).run store = run ∧
          (wider.resolve mode name).run store = (scope.resolve mode name).run store)) ∧
      ∀ before after inserted, ∀ wider : Scope, scope.frames = before ++ after →
        wider.frames = before ++ inserted :: after →
        (∀ between, Asked head before store (.ok .missing, between) →
          (inserted.data.lookup head).run between = (.ok .missing, between)) →
        (wider.resolve mode name).run store = (scope.resolve mode name).run store) := by
  intro name
  refine ⟨scope.resolve_joined plain other mode, ?_, ?_⟩
  · intro standards
    exact lookup_chain_alone standards head scope.frame store
  · intro lenient
    constructor
    · obtain ⟨asked, unasked, run, split, asks, last⟩ := exists_asked head scope.frames store
      have found : (scope.find mode head).run store = run := by
        change (lookupChain mode head scope.frames).run store = run
        rw [split]
        exact asks.lookup_chain lenient last
      refine ⟨asked, unasked, run, split, asks, found, last, ?_⟩
      rintro hit wider ⟨behind, begins⟩
      have same : (wider.find mode head).run store = run := by
        change (lookupChain mode head wider.frames).run store = run
        rw [← begins]
        exact asks.lookup_chain lenient fun missing => absurd missing hit
      exact ⟨same, Scope.resolve_run_congr plain other (same.trans found.symm)⟩
    · intro before after inserted wider here there inert
      apply Scope.resolve_run_congr plain other
      change (lookupChain mode head wider.frames).run store =
        (lookupChain mode head scope.frames).run store
      rw [here, there]
      exact lookup_chain_insert lenient before after inert

/-- A frame of null comes in between, and the parts of the name lead to the same value. -/
theorem name_is_found_around_null :
    let outer : Frame := .plain (.mapping .dictionary
      [(.text "a", .mapping .dictionary [(.text "b", .int 1)])])
    (∀ part ∈ ["a", "b"], '.' ∉ part.toList) ∧ ".".intercalate ["a", "b"] ∉ Scope.ownNames ∧
      (Scope.resolve ⟨.plain .null, [outer]⟩ (.bool false) "a.b").run .empty =
        (.ok (.int 1), .empty) := by
  intro outer
  have plain : ∀ part ∈ ["a", "b"], '.' ∉ part.toList := by decide
  have other : ".".intercalate ["a", "b"] ∉ Scope.ownNames := by decide
  refine ⟨plain, other, ?_⟩
  have unchanged := ((names_are_looked_for_from_inside (.bool false) "a" ["b"] plain other ⟨outer, []⟩
    .empty).2.2 fun _ => rfl).2 [] [outer] (.plain .null) ⟨.plain .null, [outer]⟩ rfl rfl
      fun _ _ => rfl
  exact unchanged.trans rfl

/-- A name of the frame itself is a plain name where it is a head. And a frame can miss a head and
still take an item out of a list that is found for it further out. -/
theorem heads_and_misses_are_seen :
    let data : Value := .mapping .dictionary [(.text "x", .int 1)]
    let items : Value := .list [.int 1, .missing] 0
    let outer : Frame := .plain (.mapping .dictionary [(.text "pop", items)])
    let store : Store := ⟨#[#[0, 1]], #[0]⟩
    ((Scope.root data).resolve (.bool false) "this").run store = (.ok data, store) ∧
      (data.lookup "x").run store = (.ok (.int 1), store) ∧
      ((Scope.root data).resolve (.bool false) "this.x").run store = (.ok .missing, store) ∧
      ((items.lookup "pop").run store).1 = .ok .missing ∧
      ((Scope.resolve ⟨outer, []⟩ (.bool false) "pop.copy").run store).1 =
        .ok (.list [.int 1, .missing] 1) ∧
      ((Scope.resolve ⟨.plain items, [outer]⟩ (.bool false) "pop.copy").run store).1 =
        .ok (.list [.int 1] 1) := by
  exact ⟨rfl, rfl, rfl, rfl, rfl, rfl⟩

end Names

end Mustache
