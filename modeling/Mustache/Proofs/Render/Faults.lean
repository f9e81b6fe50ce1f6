import Mustache.Proofs.Render.Written
import Mustache.Proofs.Segment
import Mustache.Proofs.Value.Visited

/-!
How a rendering may fail. Its faults are those that its data and its registry raise, those of looking
into values, and the one for a name that stands for nothing.
-/

namespace Mustache

set_option autoImplicit false

variable {allowed : Deed → Prop}

def Scope.DoesOnly (allowed : Deed → Prop) (scope : Scope) : Prop :=
  ∀ frame ∈ scope.frame :: scope.enclosing, frame.data.DoesOnly allowed

theorem Scope.root_does_only {data : Value} (only : data.DoesOnly allowed) :
    (Scope.root data).DoesOnly allowed := List.forall_mem_singleton.mpr only

theorem Scope.nest_does_only {scope : Scope} {frame : Frame} (others : scope.DoesOnly allowed)
    (only : frame.data.DoesOnly allowed) : (scope.nest frame).DoesOnly allowed :=
  List.forall_mem_cons.mpr ⟨only, others⟩

section Resolving

variable (own : ∀ cause, allowed (.raise (.value cause)))
include own

theorem lookup_chain_gives (standardsMode : Value) (name : String) {frames : List Frame}
    (each : ∀ frame ∈ frames, frame.data.DoesOnly allowed) :
    Gives allowed (lookupChain standardsMode name frames) := by
  induction frames with
  | nil => exact gives_leaf rfl rfl
  | cons frame enclosing induction =>
      obtain ⟨first, others⟩ := List.forall_mem_cons.mp each
      apply Upholds.of_bind (lookup_gives own first name)
      intro value only
      split
      · exact .of_pure only
      · apply Upholds.of_bind (standardsMode.truth_upholds own)
        intro innermost _
        split
        · exact gives_leaf rfl rfl
        · exact induction others

theorem lookup_path_gives {value : Value} (only : value.DoesOnly allowed)
    (parts : List String) : Gives allowed (lookupPath value parts) := by
  induction parts generalizing value with
  | nil => exact .of_pure only
  | cons part rest induction =>
      unfold lookupPath
      split
      · exact .of_pure only
      · exact .of_bind (lookup_gives own only part) fun inner only => induction only

theorem Scope.resolve_gives {scope : Scope} (only : scope.DoesOnly allowed)
    (standardsMode : Value) (name : String) :
    Gives allowed (scope.resolve standardsMode name) := by
  unfold Scope.resolve
  split
  · exact .of_pure (List.forall_mem_cons.mp only).1
  · split
    · exact gives_leaf rfl rfl
    · split
      · exact gives_leaf rfl rfl
      · split
        · exact gives_leaf rfl rfl
        · split
          · exact gives_leaf rfl rfl
          · apply Upholds.of_bind (lookup_chain_gives own standardsMode _ only)
            intro value only
            exact lookup_path_gives own only _

end Resolving

section Interpolating

def Setting.Shown.DoesOnly (allowed : Deed → Prop) (shown : Setting.Shown) : Prop :=
  shown.value.DoesOnly allowed ∧
    ∀ replace ∈ shown.replacing, (Value.routine replace).DoesOnly allowed

theorem replacing_does_only {value : Value} (only : value.DoesOnly allowed) :
    ∀ replace ∈ value.replacing?, (Value.routine replace).DoesOnly allowed := by
  intro replace found
  cases value with
  | object host =>
      have own : host.replacing = some replace := found
      apply only.part
      simp [Value.parts, HostObject.parts, own]
  | _ => cases found

variable (own : ∀ cause, allowed (.raise (.value cause)))
include own

theorem replace_gives {value : Value} (only : value.DoesOnly allowed) (target : Char)
    (substitute : String) : Gives allowed (Setting.replaceIn value target substitute) := by
  unfold Setting.replaceIn
  split
  · exact gives_leaf rfl rfl
  · next host => exact host.invoke_gives only own "replace" 2
  · exact .of_throw (own _)
  · exact .of_throw (own _)
  · exact .of_throw (own _)
  · exact .of_throw (own _)

theorem replace_each_gives {value : Value} (only : value.DoesOnly allowed)
    (entities : List (Char × String)) :
    Gives allowed (entities.foldlM (fun value entity =>
      Setting.replaceIn value entity.1 entity.2) value) := by
  induction entities generalizing value with
  | nil => exact .of_pure only
  | cons entity entities induction =>
      rw [List.foldlM_cons]
      exact .of_bind (replace_gives own only _ _) fun value only => induction only

theorem escape_gives {value : Value} (only : value.DoesOnly allowed) :
    Gives allowed (Setting.escapeValue value) := by
  cases value with
  | text content => exact gives_leaf rfl rfl
  | _ => exact replace_each_gives own only _

theorem plain_text_ensures (value : Value) :
    Ensures (fun fault => allowed (.raise fault)) Anything (Setting.plainText value) := by
  cases value with
  | text content => trivial
  | _ => exact own _

theorem shown_escaped_gives {shown : Setting.Shown} (only : shown.DoesOnly allowed) :
    Gives allowed shown.escaped := by
  unfold Setting.Shown.escaped
  split
  · next replace _ _ found _ =>
      apply Upholds.of_bind (replace.call_gives own (only.2 replace found) true 2)
      intro first only
      exact replace_each_gives own only _
  · exact escape_gives own only.1

theorem write_shown_upholds (escaped : Value) {shown : Setting.Shown}
    (only : shown.DoesOnly allowed) :
    Confines allowed Anything (Setting.writeShown escaped shown) := by
  have writes (value : Value) : Confines allowed Anything (do
      write (← (Setting.plainText value : Except Fault String)) : Render Unit) :=
    .of_bind (.of_except (plain_text_ensures own value)) fun _ _ => .of_state fun _ => trivial
  apply Upholds.of_bind (.of_access (escaped.truth_upholds own))
  intro flag _
  split
  · exact .of_bind (.of_access (shown_escaped_gives own only)) fun value _ => writes value
  · exact writes shown.value

/-- A flag that is off is never taken for one that is on. -/
theorem flag_upholds (value : Value) :
    Confines allowed (fun flag => flag = true → value ≠ .bool false) value.truth := by
  by_cases off : value = .bool false
  · subst off
    intro store
    change false = true → Value.bool false ≠ .bool false
    nofun
  · exact (value.truth_upholds own).weaken fun _ _ _ => off

end Interpolating

section Rendering

/-- A default raises no other faults, and without one a name may be refused if variables are
strict. -/
structure Options.Permits (allowed : Deed → Prop) (options : Options) : Prop where
  substitute : options.defaultValue.DoesOnly allowed
  refusing : options.defaultValue = .null → options.strictVariables ≠ .bool false →
    ∀ name line, allowed (.raise (.missingVariable name line))

variable {setting : Setting} (own : ∀ cause, allowed (.raise (.value cause)))
  (permits : setting.options.Permits allowed)
include own permits

theorem shown_upholds (name : String) (line : Nat) {value : Value}
    (only : value.DoesOnly allowed) :
    Confines allowed (fun shown => ∀ text ∈ shown, Setting.Shown.DoesOnly allowed text)
      (setting.shown name line value) := by
  have nothing : ∀ text ∈ (none : Option Setting.Shown), text.DoesOnly allowed := nofun
  have writes (value : Value) : Confines allowed Anything (liftText value.written) := by
    apply Upholds.of_get
    intro state
    have written : Ensures (fun fault => allowed (.raise fault)) Anything
        (value.written state.1) := Value.written_ensures own state.1 value
    split
    · exact .of_pure trivial
    · next fault failed => exact .of_throw (written.error failed)
  have default : ∀ text ∈ some (Setting.Shown.mk setting.options.defaultValue none),
      text.DoesOnly allowed := by
    rintro _ ⟨⟩
    exact ⟨permits.substitute, nofun⟩
  unfold Setting.shown
  dsimp only
  split
  · next null =>
      apply Upholds.of_bind (.of_access (flag_upholds own setting.options.strictVariables))
      intro strict on
      split
      · next raised => exact .of_throw (permits.refusing null (on raised) name line)
      · exact .of_pure nothing
  · exact .of_pure nothing
  · exact .of_pure default
  · exact .of_pure default
  · apply Upholds.of_bind (writes _)
    intro text _
    apply Upholds.of_pure
    rintro _ ⟨⟩
    exact ⟨Value.does_only_of_leaf rfl rfl, replacing_does_only only⟩

theorem interpolation_upholds {scope : Scope} (only : scope.DoesOnly allowed) (name : String)
    (escaped : Value) (line : Nat) :
    Confines allowed Anything (renderSegment setting scope (.interpolation name escaped line)) := by
  apply Upholds.of_bind (.of_access (scope.resolve_gives own only _ name))
  intro value only
  apply Upholds.of_bind (shown_upholds own permits name line only)
  intro shown each
  cases shown with
  | none => exact .of_pure trivial
  | some text => exact write_shown_upholds own escaped (each text rfl)

end Rendering

mutual
theorem segment_upholds {setting : Setting} (own : ∀ cause, allowed (.raise (.value cause)))
    (adapters : setting.registry.DoesOnly allowed) (permits : setting.options.Permits allowed)
    (segment : Segment)
    (configs : segment.Everywhere (Segment.Configs (·.options.Permits allowed))) {scope : Scope}
    (only : scope.DoesOnly allowed) :
    Confines allowed Anything (renderSegment setting scope segment) := by
  match segment with
  | .text content => exact .of_state fun _ => trivial
  | .interpolation name escaped line =>
      exact interpolation_upholds own permits only name escaped line
  | .block inverted name line body =>
      have inner {scope : Scope} (only : scope.DoesOnly allowed) :=
        segments_uphold own adapters permits body configs.2 only
      have resolves := Upholds.of_access (σ := String) (scope.resolve_gives own only
        setting.options.standardsMode name)
      cases inverted with
      | false =>
          apply Upholds.of_bind resolves
          intro value found
          cases value.kind setting.registry with
          | missing => exact .of_pure trivial
          | null => exact .of_pure trivial
          | sequence =>
              apply Value.visit_upholds own _ adapters found
              intro placed element
              exact inner (scope.nest_does_only only element)
          | boolean =>
              cases value with
              | bool flag =>
                  cases flag with
                  | true => exact inner only
                  | false => exact .of_pure trivial
              | _ => exact .of_pure trivial
          | _ => exact inner (scope.nest_does_only only found)
      | true =>
          apply Upholds.of_bind resolves
          intro value found
          apply Upholds.of_bind (.of_access (Value.falsy_upholds own adapters found))
          intro falsy _
          cases falsy with
          | true => exact inner only
          | false => exact .of_pure trivial
  | .included name config body =>
      have inner : (Setting.mk config.options setting.registry).options.Permits allowed := configs.1
      exact @segments_uphold ⟨config.options, setting.registry⟩ own adapters inner body configs.2 _
        (Scope.root_does_only (List.forall_mem_cons.mp only).1)
  termination_by structural segment
theorem segments_uphold {setting : Setting} (own : ∀ cause, allowed (.raise (.value cause)))
    (adapters : setting.registry.DoesOnly allowed) (permits : setting.options.Permits allowed)
    (segments : List Segment)
    (configs : Segment.EverywhereAll (Segment.Configs (·.options.Permits allowed)) segments)
    {scope : Scope} (only : scope.DoesOnly allowed) :
    Confines allowed Anything (renderSegments setting scope segments) := by
  match segments with
  | [] => exact .of_pure trivial
  | segment :: rest =>
      apply Upholds.of_bind (segment_upholds own adapters permits segment configs.1 only)
      intro _ _
      exact segments_uphold own adapters permits rest configs.2 only
  termination_by structural segments
end

/-- Where the data, the adapters and the default do nothing else, a rendering fails with nothing
else. -/
theorem render_to_fault {config : Config} {segments : List Segment} {registry : Registry}
    {data : Value} {written : String} {store : Store} {fault : Fault}
    (own : ∀ cause, allowed (.raise (.value cause))) (adapters : registry.DoesOnly allowed)
    (only : data.DoesOnly allowed) (permits : config.options.Permits allowed)
    (fails : ((config.template segments).renderTo registry data written store).1.failure =
      some fault) : allowed (.raise fault) := by
  have configs : Segment.EverywhereAll (Segment.Configs (·.options.Permits allowed))
      (Segment.reconfiguredAll config segments) :=
    Segment.configs_weaken (fun _ same => same ▸ permits)
      (Segment.reconfigured_all_configs config segments)
  have upholds : Confines allowed Anything (renderSegments ⟨config.options, registry⟩ (.root data)
      (Segment.reconfiguredAll config segments)) :=
    segments_uphold own adapters permits _ configs (Scope.root_does_only only)
  rw [Template.render_to_run] at fails
  exact (upholds (store, written)).error (fault_of_eq_some.mp fails)

end Mustache
