import Mustache.Proofs.Render.Locality
import Mustache.Proofs.Template.Flags
import Mustache.Proofs.Template.Past

/-!
Rendering templates one behind the other. Writing two texts is writing both as one, so that it does
not matter how texts are cut, and a template whose lines have been moved is rendered to the same
text. What the first template leaves behind is seen by the second one only where it has changed
something, not where it has just made something new.
-/

namespace Mustache

set_option autoImplicit false

/-- The same fault, or that of a variable which is missing so many lines further down. -/
inductive Fault.Shifted (lines : Nat) : Fault → Fault → Prop where
  | same (fault : Fault) : Shifted lines fault fault
  | missing (name : String) (line : Int) :
      Shifted lines (.missingVariable name line) (.missingVariable name (line + lines))

/-- Runs that end alike, in the same state, up to the line of a missing variable. -/
inductive EndsAlike {σ α : Type} (lines : Nat) :
    Except Fault α × σ → Except Fault α × σ → Prop where
  | ok (value : α) (state : σ) : EndsAlike lines (.ok value, state) (.ok value, state)
  | error {fault fault' : Fault} (shifted : fault.Shifted lines fault') (state : σ) :
      EndsAlike lines (.error fault, state) (.error fault', state)

def RunsAlike {σ α : Type} (lines : Nat) (action other : Action σ α) : Prop :=
  ∀ state, EndsAlike lines (action.run state) (other.run state)

namespace RunsAlike

variable {σ α β : Type} {lines : Nat}

theorem refl (action : Action σ α) : RunsAlike lines action action := by
  intro state
  rcases action.run state with ⟨outcome, later⟩
  cases outcome with
  | ok value => exact .ok value later
  | error fault => exact .error (.same fault) later

theorem of_throw {fault fault' : Fault} (shifted : fault.Shifted lines fault') :
    RunsAlike lines (throw fault : Action σ α) (throw fault') := fun state => .error shifted state

theorem of_bind {action other : Action σ α} {next next' : α → Action σ β}
    (first : RunsAlike lines action other)
    (second : ∀ value, RunsAlike lines (next value) (next' value)) :
    RunsAlike lines (action >>= next) (other >>= next') := by
  intro state
  have alike := first state
  rw [Action.run_bind, Action.run_bind]
  generalize action.run state = run at alike ⊢
  generalize other.run state = run' at alike ⊢
  cases alike with
  | ok value later => exact second value later
  | error shifted later => exact .error shifted later

theorem of_next {action : Action σ α} {next next' : α → Action σ β}
    (second : ∀ value, RunsAlike lines (next value) (next' value)) :
    RunsAlike lines (action >>= next) (action >>= next') := (refl action).of_bind second

theorem of_visit_from {visit visit' : Placed → Run σ Unit}
    (each : ∀ placed, RunsAlike lines (visit placed) (visit' placed)) (fuel index : Nat)
    (element : Value) (cursor : Cursor) :
    RunsAlike lines (visitFrom visit fuel index element cursor)
      (visitFrom visit' fuel index element cursor) := by
  induction fuel generalizing index element cursor with
  | zero => exact refl _
  | succ fuel induction =>
      apply of_next
      intro following
      apply of_bind (each _)
      intro _
      cases following with
      | none => exact refl _
      | some next => exact induction _ _ _

theorem of_visit {visit visit' : Placed → Run σ Unit}
    (each : ∀ placed, RunsAlike lines (visit placed) (visit' placed)) (registry : Registry)
    (value : Value) :
    RunsAlike lines (value.visit registry visit) (value.visit registry visit') := by
  apply of_next
  intro cursor
  apply of_next
  intro state
  apply of_next
  intro following
  cases following with
  | none => exact refl _
  | some next => exact of_visit_from each _ _ _ _

end RunsAlike

theorem shown_alike (lines : Nat) (setting : Setting) (name : String) (line : Nat) (value : Value) :
    RunsAlike lines (setting.shown name line value) (setting.shown name (line + lines) value) := by
  unfold Setting.shown
  dsimp only
  split
  · apply RunsAlike.of_next
    intro strict
    cases strict with
    | true => exact .of_throw (.missing name line)
    | false => exact .refl _
  · exact .refl _
  · exact .refl _
  · exact .refl _
  · exact .refl _

/-- Of so many lines that a variable has more, so many are seen where it is shown. -/
def Setting.ShowsAlike (setting : Setting) (lines seen : Nat) : Prop :=
  ∀ name line value, RunsAlike seen (setting.shown name line value)
    (setting.shown name (line + lines) value)

section Alike

variable {setting : Setting} {lines seen : Nat}

mutual
theorem segment_past_alike (alike : setting.ShowsAlike lines seen) (kept : Nat)
    (segment : Segment) (scope : Scope) :
    RunsAlike seen (renderSegment setting scope segment)
      (renderSegment setting scope (segment.movedPast lines kept)) := by
  match segment with
  | .text content => exact .refl _
  | .interpolation name escaped line =>
      apply RunsAlike.of_next
      intro value
      apply RunsAlike.of_bind _ fun shown => .refl _
      by_cases past : kept = 0
      · rw [if_pos past]
        exact alike name line value
      · rw [if_neg past]
        exact .refl _
  | .block inverted name line body =>
      have inner (scope : Scope) : RunsAlike seen (renderSegments setting scope body)
          (renderSegments setting scope (Segment.movedPastAll lines (kept - 1) body)) :=
        segments_past_alike alike (kept - 1) body scope
      cases inverted with
      | false =>
          apply RunsAlike.of_next
          intro value
          cases value.kind setting.registry with
          | missing => exact .refl _
          | null => exact .refl _
          | sequence =>
              exact .of_visit (fun placed => inner (scope.nest (.ofPlaced placed))) _ _
          | boolean =>
              cases value with
              | bool flag =>
                  cases flag with
                  | true => exact inner scope
                  | false => exact .refl _
              | _ => exact .refl _
          | _ => exact inner (scope.nest (.plain value))
      | true =>
          apply RunsAlike.of_next
          intro value
          apply RunsAlike.of_next
          intro falsy
          cases falsy with
          | true => exact inner scope
          | false => exact .refl _
  | .included name config body => exact .refl _
  termination_by structural segment
theorem segments_past_alike (alike : setting.ShowsAlike lines seen) (kept : Nat)
    (segments : List Segment) (scope : Scope) :
    RunsAlike seen (renderSegments setting scope segments)
      (renderSegments setting scope (Segment.movedPastAll lines kept segments)) := by
  match segments with
  | [] => exact .refl _
  | segment :: rest =>
      exact (segment_past_alike alike kept segment scope).of_bind fun _ =>
        segments_past_alike alike (kept - segment.tags) rest scope
  termination_by structural segments
end

end Alike

theorem segments_alike (lines : Nat) (setting : Setting) (segments : List Segment)
    (scope : Scope) :
    RunsAlike lines (renderSegments setting scope segments)
      (renderSegments setting scope (Segment.movedAll lines segments)) := by
  rw [← Segment.moved_past_all_none]
  exact segments_past_alike (shown_alike lines setting) 0 segments scope

section Writing

variable (setting : Setting) (scope : Scope)

theorem render_append (segments rest : List Segment) :
    renderSegments setting scope (segments ++ rest) =
      renderSegments setting scope segments >>= fun _ => renderSegments setting scope rest := by
  induction segments with
  | nil => rfl
  | cons segment segments induction =>
      rw [List.cons_append, renderSegments, renderSegments, induction, bind_assoc]

theorem render_prepend (content : String) (segments : List Segment) :
    renderSegments setting scope (Segment.prependText content segments) =
      renderSegments setting scope (.text content :: segments) := by
  cases segments with
  | nil => rfl
  | cons segment rest =>
      cases segment with
      | text next =>
          apply Action.same_of_runs
          rintro ⟨store, written⟩
          change (renderSegments setting scope rest).run (store, written ++ (content ++ next)) =
            (renderSegments setting scope rest).run (store, written ++ content ++ next)
          rw [String.append_assoc]
      | interpolation name escaped line => rfl
      | block inverted name line body => rfl
      | included name config body => rfl

theorem render_merged (segments : List Segment) :
    renderSegments setting scope (Segment.mergeTexts segments) =
      renderSegments setting scope segments := by
  induction segments with
  | nil => rfl
  | cons segment rest induction =>
      have behind : renderSegments setting scope (segment :: Segment.mergeTexts rest) =
          renderSegments setting scope (segment :: rest) := by
        rw [renderSegments, renderSegments, induction]
      cases segment with
      | text content => exact (render_prepend setting scope content _).trans behind
      | interpolation name escaped line => exact behind
      | block inverted name line body => exact behind
      | included name config body => exact behind

end Writing

theorem EndsAlike.rendering {lines : Nat} {run run' : Except Fault Unit × Store × String}
    (alike : EndsAlike lines run run') :
    (Rendering.ofRun run').1.written = (Rendering.ofRun run).1.written ∧
      Option.Rel (Fault.Shifted lines) (Rendering.ofRun run).1.failure
        (Rendering.ofRun run').1.failure := by
  cases alike with
  | ok value state => exact ⟨rfl, .none⟩
  | error shifted state => exact ⟨rfl, .some shifted⟩

/-- Rendering one behind the other, where the first leaves behind what was there before. -/
theorem segments_render_in_turn {setting : Setting} {view : View} {data : Value} {store : Store}
    {first second whole : List Segment} {lines : Nat}
    (merged : Segment.mergeTexts whole =
      Segment.mergeTexts (first ++ Segment.movedAll lines second))
    (keeps : setting.registry.KeepsTo view (· < store.orders.size) (· < store.counters.size))
    (framed : data.Within view store) (options : setting.options.Each (Value.Within view store))
    (flags : Segment.EverywhereAll (Segment.Flag (Value.Within view store)) second) :
    let render (segments : List Segment) := Rendering.ofRun
      ((renderSegments setting (.root data) segments).run (store, ""))
    store.Extends (render first).2 →
      ((render first).1.failure = none →
        (render whole).1.written = (render first).1.written ++ (render second).1.written ∧
          Option.Rel (Fault.Shifted lines) (render second).1.failure (render whole).1.failure) ∧
      ((render first).1.failure ≠ none → (render whole).1 = (render first).1) := by
  intro render
  have split : renderSegments setting (.root data) whole =
      renderSegments setting (.root data) first >>= fun _ =>
        renderSegments setting (.root data) (Segment.movedAll lines second) := by
    rw [← render_merged, merged, render_merged, render_append]
  dsimp only [render]
  rw [split, Action.run_bind]
  rcases (renderSegments setting (.root data) first).run (store, "") with ⟨outcome, later, text⟩
  intro extends'
  cases outcome with
  | error fault => exact ⟨nofun, fun _ => rfl⟩
  | ok _ =>
      refine ⟨fun _ => ?_, fun failed => (failed rfl).elim⟩
      let action := renderSegments setting (.root data) second
      have rooted : (Scope.root data).Within view store := List.forall_mem_singleton.mpr framed
      have behind : Rendering.ofRun (action.run (later, text)) =
          (⟨text ++ (Rendering.ofRun (action.run (later, ""))).1.written,
            (Rendering.ofRun (action.run (later, ""))).1.failure⟩,
              (Rendering.ofRun (action.run (later, ""))).2) := by
        rw [segments_behind setting second (.root data) later text]
        rfl
      have local' : (Rendering.ofRun (action.run (later, ""))).1 =
          (Rendering.ofRun (action.run (store, ""))).1 :=
        segments_local extends' keeps rooted options flags ""
      have alike := (segments_alike lines setting second (.root data) (later, text)).rendering
      rw [behind, local'] at alike
      exact alike

/-- A source that ends in the middle of a text, with the standard markers, can be put in front of
any other one. Both are then compiled to what they are compiled to by themselves, one behind the
other and with one text at the seam, or refused for what the second one is refused for. Its own
lines are counted on. Rendered, they write what they write by themselves, if the first one changes
nothing that was there before. -/
theorem joined_sources_render_in_turn (options : Options) (identity : Nat)
    (table : List (String × String)) (chain : List String) {first : String}
    (ends : EndsInText first) {template : Template}
    (compiled : ((Config.mk options (.ofTable identity table)).runCompile chain
      (.text first)).1 = .ok template) (second : String) :
    let config : Config := ⟨options, .ofTable identity table⟩
    let lines := newlines first.toList
    let outcome := (config.runCompile chain (.text second)).1
    let joined := (config.runCompile chain (.text (first ++ second))).1
    (∃ base content, template.segments = base ++ [.text content]) ∧
    ((∃ whole, joined = .ok whole) ↔ ∃ next, outcome = .ok next) ∧
    (∀ next whole, outcome = .ok next → joined = .ok whole →
      Segment.mergeTexts whole.segments =
        Segment.mergeTexts (template.segments ++ Segment.movedAll lines next.segments) ∧
      ∀ registry view data store,
        registry.KeepsTo view (· < store.orders.size) (· < store.counters.size) →
        data.Within view store → options.Each (Value.Within view store) →
        let before := template.render registry data store
        let after := next.render registry data store
        let both := whole.render registry data store
        store.Extends before.2 →
          (before.1.failure = none →
            both.1.written = before.1.written ++ after.1.written ∧
              Option.Rel (Fault.Shifted lines) after.1.failure both.1.failure) ∧
          (before.1.failure ≠ none → both.1 = before.1)) ∧
    ∀ fault, outcome = .error fault →
      (config.Supplies chain (.text second) → ∃ error, fault = .parse error ∧
        joined = .error (.parse (error.moved lines))) ∧
      (¬ config.Supplies chain (.text second) → joined = .error fault) := by
  intro config lines outcome joined
  have loads : config.loader = .ofTable identity table := rfl
  obtain ⟨ending, accepted, refused⟩ := compile_joined loads chain ends compiled second
  refine ⟨ending, ?_, ?_, refused⟩
  · constructor
    · rintro ⟨whole, same⟩
      cases alone : outcome with
      | ok next => exact ⟨next, rfl⟩
      | error fault =>
          obtain ⟨own, elsewhere⟩ := refused fault alone
          by_cases supplied : config.Supplies chain (.text second)
          · obtain ⟨error, _, fails⟩ := own supplied
            cases fails.symm.trans same
          · cases (elsewhere supplied).symm.trans same
    · rintro ⟨next, same⟩
      obtain ⟨whole, made, _⟩ := accepted next same
      exact ⟨whole, made⟩
  · intro next whole same made
    obtain ⟨_, again, merged⟩ := accepted next same
    cases made.symm.trans again
    refine ⟨merged, ?_⟩
    intro registry view data store keeps framed each before after both extends'
    have raw : (Value.bool false).Within view store := Value.within_of_leaf rfl rfl rfl
    obtain ⟨firstly, _⟩ := compiled_flags compiled raw each
    obtain ⟨secondly, flags⟩ := compiled_flags same raw each
    obtain ⟨wholly, _⟩ := compiled_flags made raw each
    have rendering (template : Template) (same : template.config = config) :
        template.render registry data store = Rendering.ofRun
          ((renderSegments ⟨options, registry⟩ (.root data) template.segments).run
            (store, "")) := by
      rw [Template.render, Template.render_to_run, same]
    dsimp only [before, after, both] at extends' ⊢
    rw [rendering template firstly] at extends' ⊢
    rw [rendering next secondly, rendering whole wholly]
    let setting : Setting := ⟨options, registry⟩
    have keeps : setting.registry.KeepsTo view (· < store.orders.size) (· < store.counters.size) :=
      keeps
    exact segments_render_in_turn merged keeps framed each flags extends'

/-- The text at the seam is one, and the lines of the second source are one further down: that of
its variable, and that of a closing tag which is refused. -/
theorem greeting_is_joined :
    let first := "Dear \x7b\x7ba\x7d\x7d,\n"
    let second := "yours, \x7b\x7bb\x7d\x7d"
    let config : Config := ⟨.standard, .ofTable 1 []⟩
    let data : Value := .mapping .dictionary [(.text "a", .text "A"), (.text "b", .text "B")]
    let run (content : String) := (config.runCompile [] (.text content)).1
    EndsInText first ∧
      (∃ template next whole, run first = .ok template ∧ run second = .ok next ∧
        run (first ++ second) = .ok whole ∧
        Segment.mergeTexts whole.segments =
          Segment.mergeTexts (template.segments ++ Segment.movedAll 1 next.segments) ∧
        (whole.render .none data .empty).1.written =
          (template.render .none data .empty).1.written ++
            (next.render .none data .empty).1.written) ∧
      run (first ++ "\x7b\x7b/c\x7d\x7d") = .error (.parse ⟨.closeWithoutOpen "c", some 2⟩) := by
  intro first second config data run
  have fed : Lexer.start.feed first.toList = .ok ⟨.standard, .text, ['\n', ','], 2, false, false,
      [.tag (.interpolation "a" false) 1, .text "Dear "]⟩ := by decide +kernel
  have ends : EndsInText first := ⟨_, fed, rfl, rfl, by decide⟩
  have compiled : run "Dear \x7b\x7ba\x7d\x7d,\n" = .ok ⟨[.text "Dear ",
    .interpolation "a" (.bool true) 1, .text ",\n"], config⟩ := rfl
  have alone : run "yours, \x7b\x7bb\x7d\x7d" = .ok ⟨[.text "yours, ",
    .interpolation "b" (.bool true) 1], config⟩ := rfl
  have flag (flag : Bool) : (Value.bool flag).Within .whole .empty := Value.within_of_leaf rfl rfl rfl
  have null : Value.null.Within .whole .empty := Value.within_of_leaf rfl rfl rfl
  have text (content : String) : (Value.text content).Within .whole .empty :=
    Value.within_of_leaf rfl rfl rfl
  have framed : data.Within .whole .empty := by
    apply Value.within_of_parts
    · simp [data, Value.orderCells]
    · simp [data, Value.counterCells]
    · simp [data, Value.exposed, Value.parts, text]
  have counted : newlines first.toList = 1 := by decide +kernel
  have joined := joined_sources_render_in_turn .standard 1 [] [] ends compiled
  simp only [counted] at joined
  obtain ⟨_, compiles, renders, _⟩ := joined second
  obtain ⟨_, _, _, refuses⟩ := joined "\x7b\x7b/c\x7d\x7d"
  refine ⟨ends, ?_, ?_⟩
  · obtain ⟨whole, made⟩ := compiles.mpr ⟨_, alone⟩
    obtain ⟨merged, written⟩ := renders _ whole alone made
    refine ⟨_, _, whole, compiled, alone, made, merged, ?_⟩
    have options : Options.standard.Each (Value.Within .whole .empty) :=
      ⟨flag true, flag false, null, flag false⟩
    have keeps := Registry.none_keeps_to .whole (· < Store.empty.orders.size)
      (· < Store.empty.counters.size)
    exact ((written .none .whole data .empty keeps framed options (.refl _)).1 rfl).1
  · have supplied : config.Supplies [] (.text "\x7b\x7b/c\x7d\x7d") := by
      intro before name line after split
      have tokens : (Source.text "\x7b\x7b/c\x7d\x7d").scan.tokens =
          [.tag (.closing "c") 1] := by decide +kernel
      rw [tokens] at split
      cases before <;> simp at split
    obtain ⟨error, same, refused⟩ :=
      (refuses (.parse ⟨.closeWithoutOpen "c", some 1⟩) rfl).1 supplied
    cases same
    exact refused

end Mustache
