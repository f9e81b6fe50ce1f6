import Mustache.Proofs.Render.Guise

/-!
Frames that cannot be reached. In standards mode no name is looked for beyond the innermost frame,
and whatever is nested in a scope hides what the scope hides. A partial never sees more than the
data of its frame, whichever the mode.
-/

namespace Mustache

set_option autoImplicit false

def Options.Standards (options : Options) : Prop :=
  ∀ store, options.standardsMode.isTrue store ≠ .ok false

theorem Value.truth_run (value : Value) (store : Store) :
    value.truth.run store = (value.isTrue store, store) := by
  change (value.isTrue store : Access Bool).run store = _
  cases value.isTrue store <;> rfl

section Resolving

variable {standardsMode : Value} (standards : ∀ store, standardsMode.isTrue store ≠ .ok false)
include standards

theorem lookup_chain_innermost (name : String) (frame : Frame) (enclosing others : List Frame) :
    lookupChain standardsMode name (frame :: enclosing) =
      lookupChain standardsMode name (frame :: others) := by
  unfold lookupChain
  refine congrArg (frame.data.lookup name >>= ·) ?_
  funext value
  split
  · rfl
  -- A miss is where the chains differ, and it is the only time that standards mode is asked for.
  · apply Action.same_of_runs
    intro store
    rw [Action.run_bind, Action.run_bind, standardsMode.truth_run]
    cases asked : standardsMode.isTrue store with
    | error fault => rfl
    | ok flag =>
        cases flag with
        | true => rfl
        | false => exact absurd asked (standards store)

theorem Scope.resolve_innermost (name : String) (frame : Frame) (enclosing others : List Frame) :
    Scope.resolve ⟨frame, enclosing⟩ standardsMode name =
      Scope.resolve ⟨frame, others⟩ standardsMode name := by
  unfold Scope.resolve Scope.find
  simp only [lookup_chain_innermost standards _ frame enclosing others]

end Resolving

mutual
theorem segment_innermost {setting : Setting} (standards : setting.options.Standards)
    (segment : Segment) (frame : Frame) (enclosing others : List Frame) :
    renderSegment setting ⟨frame, enclosing⟩ segment =
      renderSegment setting ⟨frame, others⟩ segment := by
  have resolves (name : String) :
      setting.resolve ⟨frame, enclosing⟩ name = setting.resolve ⟨frame, others⟩ name :=
    congrArg liftAccess (Scope.resolve_innermost standards name frame enclosing others)
  match segment with
  | .text content => rfl
  | .interpolation name escaped line =>
      unfold renderSegment
      rw [resolves]
  | .block inverted name line body =>
      have inner := segments_innermost standards body
      cases inverted with
      | false =>
          unfold renderSegment
          rw [resolves]
          refine congrArg (setting.resolve ⟨frame, others⟩ name >>= ·) ?_
          funext value
          have nested (frame' : Frame) :
              renderSegments setting (Scope.nest ⟨frame, enclosing⟩ frame') body =
                renderSegments setting (Scope.nest ⟨frame, others⟩ frame') body :=
            inner frame' (frame :: enclosing) (frame :: others)
          simp only [nested, inner frame enclosing others]
      | true =>
          unfold renderSegment
          rw [resolves, inner frame enclosing others]
  | .included name config body => rfl
  termination_by structural segment
theorem segments_innermost {setting : Setting} (standards : setting.options.Standards)
    (segments : List Segment) (frame : Frame) (enclosing others : List Frame) :
    renderSegments setting ⟨frame, enclosing⟩ segments =
      renderSegments setting ⟨frame, others⟩ segments := by
  match segments with
  | [] => rfl
  | segment :: rest =>
      unfold renderSegments
      rw [segment_innermost standards segment frame enclosing others,
        segments_innermost standards rest frame enclosing others]
  termination_by structural segments
end

theorem included_renders (setting : Setting) (scope : Scope) (name : String) (config : Config)
    (body : List Segment) (written : String) (store : Store) :
    let alone := (Template.mk body config).render setting.registry scope.frame.data store
    Rendering.ofRun ((renderSegment setting scope (.included name config body)).run
        (store, written)) =
      (⟨written ++ alone.1.written, alone.1.failure⟩, alone.2) := by
  intro alone
  have fresh : alone = Rendering.ofRun ((renderSegments ⟨config.options, setting.registry⟩
      (.root scope.frame.data) body).run (store, "")) :=
    Template.render_to_run _ setting.registry scope.frame.data "" store
  rw [fresh]
  change Rendering.ofRun ((renderSegments ⟨config.options, setting.registry⟩
    (.root scope.frame.data) body).run (store, written)) = _
  rw [segments_behind _ body _ store written]
  rfl

/-- Two scopes with the same innermost frame cannot be told apart in standards mode. A partial sees
the data of that frame only, in either mode. -/
theorem enclosing_frames_are_unseen (config : Config) (registry : Registry) (frame : Frame)
    (enclosing : List Frame) (written : String) (store : Store) :
    let setting : Setting := ⟨config.options, registry⟩
    (config.options.Standards → ∀ segments others,
      Rendering.ofRun ((renderSegments setting ⟨frame, enclosing⟩ segments).run (store, written)) =
        Rendering.ofRun ((renderSegments setting ⟨frame, others⟩ segments).run
          (store, written))) ∧
    ∀ name own body,
      let alone := (Template.mk body own).render registry frame.data store
      Rendering.ofRun ((renderSegment setting ⟨frame, enclosing⟩ (.included name own body)).run
          (store, written)) =
        (⟨written ++ alone.1.written, alone.1.failure⟩, alone.2) := by
  intro setting
  constructor
  · intro standards segments others
    have same : renderSegments setting ⟨frame, enclosing⟩ segments =
        renderSegments setting ⟨frame, others⟩ segments :=
      segments_innermost standards segments frame enclosing others
    rw [same]
  · intro name own body
    exact included_renders setting ⟨frame, enclosing⟩ name own body written store

/-- A name that only an enclosing frame has stands for nothing in standards mode. -/
theorem enclosing_name_is_unseen :
    let options : Options := { Options.standard with standardsMode := .bool true }
    let outer : Frame := .plain (.mapping .dictionary [(.text "x", .text "a")])
    let segments : List Segment := [.interpolation "x" (.bool true) 1, .text "b"]
    options.Standards ∧
      Rendering.ofRun ((renderSegments ⟨options, .none⟩ ⟨.plain .null, [outer]⟩ segments).run
        (.empty, "")) = (⟨"b", none⟩, .empty) := by
  intro options outer segments
  have standards : options.Standards := fun store => nofun
  refine ⟨standards, ?_⟩
  exact ((enclosing_frames_are_unseen ⟨options, .failing⟩ .none (.plain .null) [outer] ""
    .empty).1 standards segments []).trans rfl

end Mustache
