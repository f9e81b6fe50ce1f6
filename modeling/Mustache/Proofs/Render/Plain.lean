import Mustache.Proofs.Render.Written
import Mustache.Proofs.Segment
import Mustache.Proofs.Template.Flags
import Mustache.Proofs.Value.Plain

/-!
Rendering plain data. With options of the usual types nothing is changed by it, so that it can be
done again with the same outcome, and only a name that stands for nothing can end it early.
-/

namespace Mustache

set_option autoImplicit false

structure Options.Plain (store : Store) (options : Options) : Prop where
  escapeHtml : options.escapeHtml.Plain store
  standardsMode : options.standardsMode.Plain store
  strictVariables : options.strictVariables.Plain store
  defaultValue : options.defaultValue = .null ∨ ∃ content, options.defaultValue = .text content

theorem Options.Plain.each {store : Store} {options : Options} (typed : options.Plain store) :
    options.Each (Value.Plain store) := by
  refine ⟨typed.escapeHtml, typed.standardsMode, ?_, typed.strictVariables⟩
  rcases typed.defaultValue with null | ⟨content, text⟩
  · rw [null]
    exact Value.plain_of_leaf trivial rfl
  · rw [text]
    exact Value.plain_of_leaf trivial rfl

def Scope.Plain (store : Store) (scope : Scope) : Prop :=
  ∀ frame ∈ scope.frame :: scope.enclosing,
    frame.data.Plain store ∧ (Value.int frame.index).Plain store

section Resolving

variable {store : Store}

theorem Scope.plain_root {data : Value} (plain : data.Plain store) :
    (Scope.root data).Plain store :=
  List.forall_mem_singleton.mpr ⟨plain, Value.plain_int (Nat.zero_le _)⟩

theorem Scope.Plain.nest {scope : Scope} {frame : Frame} (plain : scope.Plain store)
    (data : frame.data.Plain store) (index : (Value.int frame.index).Plain store) :
    (scope.nest frame).Plain store :=
  List.forall_mem_cons.mpr ⟨⟨data, index⟩, plain⟩

theorem lookup_chain_settles {standardsMode : Value} (standards : standardsMode.Plain store)
    {name : String} (unclaimed : Unclaimed name) {frames : List Frame}
    (each : ∀ frame ∈ frames, frame.data.Plain store) :
    Settles store (Value.Known store) (lookupChain standardsMode name frames) := by
  induction frames with
  | nil => exact .of_pure (.inl rfl)
  | cons frame enclosing induction =>
      obtain ⟨first, others⟩ := List.forall_mem_cons.mp each
      apply Keeps.of_bind (lookup_settles (.inr first) unclaimed)
      intro value known
      split
      · exact .of_pure known
      · apply Keeps.of_bind (truth_settles standards)
        intro innermost _
        split
        · exact .of_pure (.inl rfl)
        · exact induction others

theorem lookup_path_settles {value : Value} (known : value.Known store) {parts : List String}
    (unclaimed : ∀ part ∈ parts, Unclaimed part) :
    Settles store (Value.Known store) (lookupPath value parts) := by
  induction parts generalizing value with
  | nil => exact .of_pure known
  | cons part rest induction =>
      obtain ⟨first, others⟩ := List.forall_mem_cons.mp unclaimed
      unfold lookupPath
      split
      · exact .of_pure known
      · exact .of_bind (lookup_settles known first) fun inner known => induction known others

theorem Scope.resolve_settles {scope : Scope} (plain : scope.Plain store) {standardsMode : Value}
    (standards : standardsMode.Plain store) {name : String}
    (unclaimed : ∀ part ∈ nameParts name, Unclaimed part) :
    Settles store (Value.Known store) (scope.resolve standardsMode name) := by
  obtain ⟨data, index⟩ := plain _ (.head _)
  unfold Scope.resolve
  split
  · exact .of_pure (.inr data)
  · split
    · exact .of_pure (.inr (Value.plain_of_leaf trivial rfl))
    · split
      · exact .of_pure (.inr (Value.plain_of_leaf trivial rfl))
      · split
        · exact .of_pure (.inr index)
        · split
          · exact .of_pure (.inl rfl)
          · next head rest split =>
              rw [split] at unclaimed
              obtain ⟨first, others⟩ := List.forall_mem_cons.mp unclaimed
              apply Keeps.of_bind (lookup_chain_settles standards first
                fun frame member => (plain frame member).1)
              exact fun value known => lookup_path_settles known others

end Resolving

section Rendering

variable {store : Store}

abbrev Leaves {α : Type} (store : Store) (allowed : Fault → Prop) (good : α → Prop)
    (action : Render α) : Prop :=
  Keeps (fun state => state.1 = store) allowed good action

/-- The one way in which rendering plain data may fail: with strict variables and no default. -/
def Options.Refuses (store : Store) (options : Options) (fault : Fault) : Prop :=
  options.defaultValue = .null ∧ options.strictVariables.isTrue store = .ok true ∧
    ∃ name line, fault = .missingVariable name line

theorem leaves_of_settles {α : Type} {allowed : Fault → Prop} {good : α → Prop}
    {action : Access α} (settles : Settles store good action) :
    Leaves store allowed good (liftAccess action) :=
  (Keeps.of_access settles).weaken fun _ => False.elim

theorem write_leaves {allowed : Fault → Prop} (text : String) :
    Leaves store allowed Anything (write text) := fun _ kept => ⟨kept, trivial⟩

variable {options : Options} {registry : Registry} (typed : options.Plain store)
include typed

theorem shown_leaves {value : Value} (known : value.Known store) (name : String) (line : Nat) :
    Leaves store (options.Refuses store)
      (fun shown => ∀ text ∈ shown, ∃ content, text = Setting.Shown.mk (.text content) none)
      (Setting.shown ⟨options, registry⟩ name line value) := by
  have nothing : ∀ text ∈ (none : Option Setting.Shown),
      ∃ content, text = Setting.Shown.mk (.text content) none := nofun
  have written {value : Value} (plain : value.Plain store) :
      Leaves store (options.Refuses store) Anything (liftText value.written) := by
    apply Keeps.of_get
    rintro ⟨_, _⟩ rfl
    have ends := written_plain plain
    dsimp only at ends ⊢
    split
    · exact .of_pure trivial
    · next fault failed => exact (ends.error failed).elim
  have default (nonnull : options.defaultValue ≠ .null) :
      ∀ text ∈ some (Setting.Shown.mk options.defaultValue none),
        ∃ content, text = Setting.Shown.mk (.text content) none := by
    rintro _ ⟨⟩
    obtain ⟨content, fixed⟩ := typed.defaultValue.resolve_left nonnull
    exact ⟨content, by rw [fixed]⟩
  unfold Setting.shown
  dsimp only
  split
  · next null =>
      apply Keeps.of_bind (leaves_of_settles (truth_settles typed.strictVariables))
      intro strict truth
      split
      · next on =>
          rw [on] at truth
          exact .of_throw ⟨null, truth, name, line, rfl⟩
      · exact .of_pure nothing
  · exact .of_pure nothing
  · next other => exact .of_pure (default fun null => other null)
  · next other => exact .of_pure (default fun null => other null)
  · next value _ _ there _ _ _ =>
      have plain := known.resolve_left there
      apply Keeps.of_bind (written plain)
      intro text _
      apply Keeps.of_pure
      rintro _ ⟨⟩
      exact ⟨text, by rw [plain.replacing]⟩

omit typed in
theorem write_shown_leaves {allowed : Fault → Prop} {escaped : Value} (flag : escaped.Plain store)
    (content : String) :
    Leaves store allowed Anything (Setting.writeShown escaped ⟨.text content, none⟩) := by
  have writes {text : String} : Leaves store allowed Anything (do
      write (← (Setting.plainText (.text text) : Except Fault String))) :=
    write_leaves text
  apply Keeps.of_bind (leaves_of_settles (truth_settles flag))
  intro on _
  cases on with
  | true => exact writes
  | false => exact writes

theorem interpolation_leaves {scope : Scope} (plain : scope.Plain store) {name : String}
    (unclaimed : ∀ part ∈ nameParts name, Unclaimed part) {escaped : Value}
    (flag : escaped.Plain store) (line : Nat) :
    Leaves store (options.Refuses store) Anything
      (renderSegment ⟨options, registry⟩ scope (.interpolation name escaped line)) := by
  apply Keeps.of_bind
    (leaves_of_settles (scope.resolve_settles plain typed.standardsMode unclaimed))
  intro value known
  apply Keeps.of_bind (shown_leaves typed known name line)
  intro shown each
  cases shown with
  | none => exact .of_pure trivial
  | some text =>
      obtain ⟨content, rfl⟩ := each text rfl
      exact write_shown_leaves flag content

end Rendering

section Visiting

variable {store : Store} {allowed : Fault → Prop} {visit : Placed → Render Unit}
  (each : ∀ placed : Placed, placed.element.Plain store → placed.index ≤ lengthLimit →
    Leaves store allowed Anything (visit placed))
include each

theorem visit_from_leaves {fuel index : Nat} (small : index + fuel ≤ lengthLimit + 1)
    {element : Value} (first : element.Plain store) {cursor : Cursor}
    (others : cursor.Plain store) :
    Leaves store allowed Anything (visitFrom visit fuel index element cursor) := by
  induction fuel generalizing index element cursor with
  | zero => exact .of_pure trivial
  | succ fuel induction =>
      apply Keeps.of_bind (leaves_of_settles (next_settles others))
      intro following delivers
      apply Keeps.of_bind (each _ first (by dsimp only; omega))
      intro _ _
      cases following with
      | none => exact .of_pure trivial
      | some next =>
          obtain ⟨first, others⟩ := delivers next rfl
          exact induction (by omega) first others

theorem visit_leaves {value : Value} (plain : value.Plain store)
    (kind : value.kind .none = .sequence) :
    Leaves store allowed Anything (value.visit .none visit) := by
  apply Keeps.of_bind (leaves_of_settles (elements_settle plain kind))
  rintro cursor ⟨others, short⟩
  apply Keeps.of_get
  rintro ⟨later, _⟩ rfl
  apply Keeps.of_bind (leaves_of_settles (next_settles others))
  intro following delivers
  cases following with
  | none => exact .of_pure trivial
  | some next =>
      obtain ⟨first, others⟩ := delivers next rfl
      have small : 1 + cursor.bound later ≤ lengthLimit + 1 := by
        rw [Nat.add_comm]
        exact Nat.succ_le_succ short
      exact visit_from_leaves each small first others

end Visiting

def Template.withLoader (loader : Loader) (template : Template) : Template where
  segments := Segment.recastAll id (fun config => { config with loader := loader })
    template.segments
  config := { template.config with loader := loader }

section Loaders

variable (loader : Loader)

mutual
theorem render_with_loader (setting : Setting) (scope : Scope) (segment : Segment) :
    renderSegment setting scope
        (segment.recast id fun config => { config with loader := loader }) =
      renderSegment setting scope segment := by
  match segment with
  | .text _ | .interpolation _ _ _ => rfl
  | .block inverted name line body =>
      have inner (scope : Scope) := render_all_with_loader setting scope body
      cases inverted <;>
        simp only [Segment.recast, renderSegment, inner]
  | .included name config body =>
      exact render_all_with_loader ⟨config.options, setting.registry⟩ (.root scope.frame.data) body
  termination_by structural segment
theorem render_all_with_loader (setting : Setting) (scope : Scope) (segments : List Segment) :
    renderSegments setting scope
        (Segment.recastAll id (fun config => { config with loader := loader }) segments) =
      renderSegments setting scope segments := by
  match segments with
  | [] => rfl
  | segment :: rest =>
      rw [Segment.recastAll, renderSegments, renderSegments,
        render_with_loader setting scope segment, render_all_with_loader setting scope rest]
  termination_by structural segments
end

theorem Template.render_with_loader (template : Template) (registry : Registry) (data : Value)
    (written : String) (store : Store) :
    (template.withLoader loader).renderTo registry data written store =
      template.renderTo registry data written store := by
  unfold Template.renderTo Template.withLoader
  dsimp only
  rw [render_all_with_loader]

end Loaders

mutual
theorem segment_leaves {store : Store} {options : Options} (typed : options.Plain store)
    (segment : Segment) (names : segment.Everywhere (Segment.Names Unclaimed))
    (flags : segment.Everywhere (Segment.Flag (Value.Plain store)))
    (configs : segment.Everywhere (Segment.Configs (·.options = options))) {scope : Scope}
    (plain : scope.Plain store) :
    Leaves store (options.Refuses store) Anything
      (renderSegment ⟨options, .none⟩ scope segment) := by
  match segment with
  | .text content => exact write_leaves content
  | .interpolation name escaped line =>
      exact interpolation_leaves typed plain names flags line
  | .block inverted name line body =>
      have inner {scope : Scope} (plain : scope.Plain store) :=
        segments_leave typed body names.2 flags.2 configs.2 plain
      have resolves {allowed : Fault → Prop} : Leaves store allowed (Value.Known store)
          (Setting.resolve ⟨options, .none⟩ scope name) :=
        leaves_of_settles (scope.resolve_settles plain typed.standardsMode names.1)
      cases inverted with
      | false =>
          apply Keeps.of_bind resolves
          intro value known
          rcases known with rfl | known
          · exact .of_pure trivial
          · dsimp only
            have zero : (Value.int (0 : Nat)).Plain store := Value.plain_int (Nat.zero_le _)
            cases kind : value.kind .none with
            | missing => exact .of_pure trivial
            | null => exact .of_pure trivial
            | sequence =>
                apply visit_leaves _ known kind
                intro placed element small
                -- The index is data, too: a sequence is short enough for it to be written.
                exact inner (plain.nest element (Value.plain_int small))
            | boolean =>
                cases value with
                | bool flag =>
                    cases flag with
                    | true => exact inner plain
                    | false => exact .of_pure trivial
                | _ => exact .of_pure trivial
            | _ => exact inner (plain.nest known zero)
      | true =>
          apply Keeps.of_bind resolves
          intro value known
          apply Keeps.of_bind (leaves_of_settles (falsy_settles known))
          intro falsy _
          cases falsy with
          | true => exact inner plain
          | false => exact .of_pure trivial
  | .included name config body =>
      obtain rfl : config.options = options := configs.1
      exact segments_leave typed body names.2 flags.2 configs.2
        (Scope.plain_root (plain _ (.head _)).1)
  termination_by structural segment
theorem segments_leave {store : Store} {options : Options} (typed : options.Plain store)
    (segments : List Segment) (names : Segment.EverywhereAll (Segment.Names Unclaimed) segments)
    (flags : Segment.EverywhereAll (Segment.Flag (Value.Plain store)) segments)
    (configs : Segment.EverywhereAll (Segment.Configs (·.options = options)) segments)
    {scope : Scope} (plain : scope.Plain store) :
    Leaves store (options.Refuses store) Anything
      (renderSegments ⟨options, .none⟩ scope segments) := by
  match segments with
  | [] => exact .of_pure trivial
  | segment :: rest =>
      apply Keeps.of_bind (segment_leaves typed segment names.1 flags.1 configs.1 plain)
      intro _ _
      exact segments_leave typed rest names.2 flags.2 configs.2 plain
  termination_by structural segments
end

end Mustache
