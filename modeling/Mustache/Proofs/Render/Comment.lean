import Mustache.Proofs.Render.Joined
import Mustache.Proofs.Template.Comment
import Mustache.Proofs.Value.Repeated

/-!
Rendering a template with a comment in a text. How texts are parted makes no difference to what is
written, on whatever level they stand, and lines make one only to the fault of a variable that is
missing. Where missing variables are no faults, nothing tells the two templates apart.
-/

namespace Mustache

set_option autoImplicit false

section Merging

variable (setting : Setting)

mutual
theorem render_merged_segment (segment : Segment) (scope : Scope) :
    renderSegment setting scope segment.merged = renderSegment setting scope segment := by
  match segment with
  | .text _ | .interpolation _ _ _ | .included _ _ _ => rfl
  | .block inverted _ _ body =>
      have inner (scope : Scope) :
          renderSegments setting scope (Segment.mergeTexts (Segment.mergedEach body)) =
            renderSegments setting scope body :=
        (render_merged setting scope _).trans (render_merged_each body scope)
      cases inverted <;> simp only [Segment.merged, renderSegment, inner]
  termination_by structural segment
theorem render_merged_each (segments : List Segment) (scope : Scope) :
    renderSegments setting scope (Segment.mergedEach segments) =
      renderSegments setting scope segments := by
  match segments with
  | [] => rfl
  | segment :: rest =>
      rw [Segment.mergedEach, renderSegments, renderSegments, render_merged_segment segment,
        render_merged_each rest]
  termination_by structural segments
end

theorem render_merge_all (segments : List Segment) (scope : Scope) :
    renderSegments setting scope (Segment.mergeAll segments) =
      renderSegments setting scope segments :=
  (render_merged setting scope _).trans (render_merged_each setting segments scope)

end Merging

theorem Fault.Shifted.eq_of_none {fault fault' : Fault} (shifted : fault.Shifted 0 fault') :
    fault = fault' := by
  cases shifted with
  | same => rfl
  | missing name line => simp

theorem RunsAlike.eq_of_none {σ α : Type} {action other : Action σ α}
    (alike : RunsAlike 0 action other) : action = other := by
  apply Action.same_of_runs
  intro state
  have ends := alike state
  generalize action.run state = run at ends ⊢
  generalize other.run state = run' at ends ⊢
  cases ends with
  | ok value later => rfl
  | error shifted later => rw [shifted.eq_of_none]

theorem EndsAlike.rendering_store {lines : Nat} {run run' : Except Fault Unit × Store × String}
    (alike : EndsAlike lines run run') : (Rendering.ofRun run').2 = (Rendering.ofRun run).2 := by
  cases alike <;> rfl

def Options.Lenient (options : Options) : Prop :=
  ∀ store, (options.strictVariables.truth.run store).1 ≠ .ok true

theorem Options.Lenient.shows_alike {setting : Setting} (lenient : setting.options.Lenient)
    (lines : Nat) : setting.ShowsAlike lines 0 := by
  intro name line value
  unfold Setting.shown
  dsimp only
  split
  · rintro ⟨store, written⟩
    rw [Action.run_bind, Action.run_bind, run_lift_access]
    have never := lenient store
    generalize setting.options.strictVariables.truth.run store = asked at never ⊢
    obtain ⟨outcome, later⟩ := asked
    cases outcome with
    | error fault => exact .error (.same fault) _
    | ok strict =>
        cases strict with
        | true => exact absurd rfl never
        | false => exact .ok none _
  · exact .refl _
  · exact .refl _
  · exact .refl _
  · exact .refl _

/-- The same tree, with lines that are moved behind some of its tags, is rendered to the same text.
Where no variable is a fault for being missing, nothing at all is different. -/
theorem renderings_past {template other : Template} {lines kept : Nat}
    (config : other.config = template.config)
    (merged : Segment.mergeAll other.segments =
      Segment.mergeAll (Segment.movedPastAll lines kept template.segments))
    (registry : Registry) (data : Value) (store : Store) :
    let bare := template.render registry data store
    let commented := other.render registry data store
    commented.1.written = bare.1.written ∧
      Option.Rel (Fault.Shifted lines) bare.1.failure commented.1.failure ∧
      commented.2 = bare.2 ∧ (template.config.options.Lenient → commented = bare) := by
  intro bare commented
  let setting : Setting := ⟨template.config.options, registry⟩
  have rendered (template' : Template) (same : template'.config = template.config) :
      template'.render registry data store = Rendering.ofRun
        ((renderSegments setting (.root data) template'.segments).run (store, "")) := by
    rw [Template.render, Template.render_to_run, same]
  have unmerged : renderSegments setting (.root data) other.segments =
      renderSegments setting (.root data)
        (Segment.movedPastAll lines kept template.segments) := by
    rw [← render_merge_all, merged, render_merge_all]
  dsimp only [bare, commented]
  rw [rendered other config, rendered template rfl, unmerged]
  have alike {seen : Nat} (shows : setting.ShowsAlike lines seen) :=
    segments_past_alike shows kept template.segments (.root data)
  have ends := alike (shown_alike lines setting) (store, "")
  refine ⟨ends.rendering.1, ends.rendering.2, ends.rendering_store, fun lenient => ?_⟩
  rw [← (alike (Options.Lenient.shows_alike lenient lines)).eq_of_none]

/-- A comment in the middle of a text, where the standard markers hold, is as good as nothing, at
whatever depth of sections. Without it a source compiles if and only if it does with it. It is
refused for the same reason, if at all, and otherwise comes to the same tree once texts that follow
each other are taken as one, where the tags in front of the comment keep their lines and those behind
it have as many more as there are newlines in it. Both are rendered to the same text, and to the same
end but for the line of a missing variable. -/
theorem comments_in_texts_are_inert (options : Options) (identity : Nat)
    (table : List (String × String)) (chain : List String) {first : String}
    (ends : EndsInText first) {remark : String} (plain : IsRemark remark) (second : String) :
    let config : Config := ⟨options, .ofTable identity table⟩
    let lines := newlines remark.toList
    let kept := (Source.text first).scan.tokens.countP Token.isLined
    let bare := (config.runCompile chain (.text (first ++ second))).1
    let commented := (config.runCompile chain (.text (first ++ (commentOf remark ++ second)))).1
    ((∃ other, commented = .ok other) ↔ ∃ template, bare = .ok template) ∧
    (∀ fault fault', bare = .error fault → commented = .error fault' →
      fault' = fault ∨ fault' = fault.moved lines) ∧
    ∀ template other, bare = .ok template → commented = .ok other →
      Segment.mergeAll other.segments =
        Segment.mergeAll (Segment.movedPastAll lines kept template.segments) ∧
      ∀ registry data store,
        let before := template.render registry data store
        let after := other.render registry data store
        after.1.written = before.1.written ∧
          Option.Rel (Fault.Shifted lines) before.1.failure after.1.failure ∧
          after.2 = before.2 ∧ (options.Lenient → after = before) := by
  intro config lines kept bare commented
  have loads : config.loader = .ofTable identity table := rfl
  obtain ⟨refused, accepted⟩ := compile_commented loads chain ends plain second
  refine ⟨?_, ?_, ?_⟩
  · constructor
    · rintro ⟨other, made⟩
      cases alone : bare with
      | ok template => exact ⟨template, rfl⟩
      | error fault =>
          obtain ⟨_, fails, _⟩ := refused fault alone
          cases fails.symm.trans made
    · rintro ⟨template, alone⟩
      obtain ⟨other, made, _⟩ := accepted template alone
      exact ⟨other, made⟩
  · intro fault fault' alone fails
    obtain ⟨_, again, moved⟩ := refused fault alone
    cases fails.symm.trans again
    exact moved
  · intro template other alone made
    obtain ⟨_, again, bareConfig, config', merged⟩ := accepted template alone
    cases made.symm.trans again
    refine ⟨merged, fun registry data store => ?_⟩
    have past := renderings_past (config'.trans bareConfig.symm) merged registry data store
    rw [bareConfig] at past
    exact past

/-- The section is on the line it was on, and the variable behind the comment one further down. -/
theorem remark_in_a_section_is_inert :
    let first := "{{#a}}x "
    let remark := "over\ntwo lines"
    let second := "{{z}}{{/a}}"
    let config : Config := ⟨.standard, .ofTable 1 []⟩
    let data : Value := .mapping .dictionary [(.text "a", .bool true), (.text "z", .text "Z")]
    let run (content : String) := (config.runCompile [] (.text content)).1
    EndsInText first ∧ IsRemark remark ∧ Options.standard.Lenient ∧
      ∃ template other, run (first ++ second) = .ok template ∧
        run (first ++ (commentOf remark ++ second)) = .ok other ∧
        template.segments =
          [.block false "a" 1 [.text "x ", .interpolation "z" (.bool true) 1]] ∧
        Segment.mergeAll other.segments =
          [.block false "a" 1 [.text "x ", .interpolation "z" (.bool true) 2]] ∧
        other.render .none data .empty = template.render .none data .empty := by
  intro first remark second config data run
  have fed : Lexer.start.feed first.toList = .ok ⟨.standard, .text, [' ', 'x'], 1, false, true,
      [.tag (.opening false "a") 1]⟩ := by decide +kernel
  have ends : EndsInText first := ⟨_, fed, rfl, rfl, by decide⟩
  have plain : IsRemark remark := by decide +kernel
  have lenient : Options.standard.Lenient := nofun
  have alone : run (first ++ second) = .ok ⟨[.block false "a" 1
      [.text "x ", .interpolation "z" (.bool true) 1]], config⟩ := by
    have whole : first ++ second = "\x7b\x7b#a\x7d\x7dx \x7b\x7bz\x7d\x7d\x7b\x7b/a\x7d\x7d" := by
      decide +kernel
    rw [whole]
    rfl
  have kept : (Source.text first).scan.tokens.countP Token.isLined = 1 := by decide +kernel
  have lines : newlines remark.toList = 1 := by decide +kernel
  obtain ⟨compiles, _, same⟩ := comments_in_texts_are_inert .standard 1 [] [] ends plain second
  obtain ⟨other, made⟩ := compiles.mpr ⟨_, alone⟩
  obtain ⟨merged, renders⟩ := same _ other alone made
  rw [kept, lines] at merged
  exact ⟨ends, plain, lenient, _, other, alone, made, rfl, merged,
    (renders .none data .empty).2.2.2 lenient⟩

end Mustache
