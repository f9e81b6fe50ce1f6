import Mustache.Proofs.Render.Written
import Mustache.Proofs.Segment
import Mustache.Proofs.Value.Traversed

/-!
Rendering in a guise. A template whose options are in a guise, rendered for data in that guise,
writes what the template itself writes for the data, and ends as it ends. Neither cells under other
numbers nor attributes that do not show can be told from what is written, and neither can what the
sink had in it before.
-/

namespace Mustache

set_option autoImplicit false

def Frame.under (guise : Guise) (frame : Frame) : Frame :=
  { frame with data := frame.data.under guise }

def Scope.under (guise : Guise) (scope : Scope) : Scope :=
  ⟨scope.frame.under guise, scope.enclosing.map (Frame.under guise)⟩

def Options.under (guise : Guise) (options : Options) : Options where
  escapeHtml := options.escapeHtml.under guise
  standardsMode := options.standardsMode.under guise
  defaultValue := options.defaultValue.under guise
  strictVariables := options.strictVariables.under guise

def Setting.under (guise : Guise) (setting : Setting) : Setting :=
  { setting with options := setting.options.under guise }

def Config.under (guise : Guise) (config : Config) : Config :=
  { config with options := config.options.under guise }

def Setting.Shown.under (guise : Guise) (shown : Setting.Shown) : Setting.Shown :=
  ⟨shown.value.under guise, shown.replacing.map (underRoutine guise)⟩

/-- Of a segment only the flags of interpolations and the options of partials are values. -/
def Segment.under (guise : Guise) : Segment → Segment := recast (Value.under guise) (·.under guise)

def underAll (guise : Guise) : List Segment → List Segment :=
  Segment.recastAll (Value.under guise) (·.under guise)

def Template.under (guise : Guise) (template : Template) : Template where
  segments := underAll guise template.segments
  config := template.config.under guise

/-- The second text is the first one behind another. -/
def Behind (front text text' : String) : Prop := text' = front ++ text

def Template.Each (holds : Value → Prop) (template : Template) : Prop :=
  template.config.options.Each holds ∧
    Segment.EverywhereAll (Segment.Flag holds) template.segments

section Congruent

variable {holds : Value → Prop} {guise other : Guise}

theorem options_under_congr
    (each : ∀ value, holds value → value.under guise = value.under other) {options : Options}
    (holding : options.Each holds) : options.under guise = options.under other := by
  obtain ⟨escapeHtml, standardsMode, defaultValue, strictVariables⟩ := holding
  simp only [Options.under, each _ escapeHtml, each _ standardsMode, each _ defaultValue,
    each _ strictVariables]

mutual
theorem segment_under_congr
    (each : ∀ value, holds value → value.under guise = value.under other) {segment : Segment}
    (flags : segment.Everywhere (Segment.Flag holds)) :
    segment.under guise = segment.under other := by
  match segment with
  | .text content => rfl
  | .interpolation name escaped line =>
      exact congrArg (Segment.interpolation name · line) (each escaped flags)
  | .block inverted name line body =>
      exact congrArg (Segment.block inverted name line) (segments_under_congr each flags.2)
  | .included name config body =>
      have options : config.options.Each holds := flags.1
      have same : config.under guise = config.under other :=
        congrArg (Config.mk · config.loader) (options_under_congr each options)
      exact congrArg₂ (Segment.included name) same (segments_under_congr each flags.2)
  termination_by structural segment
theorem segments_under_congr
    (each : ∀ value, holds value → value.under guise = value.under other)
    {segments : List Segment} (flags : Segment.EverywhereAll (Segment.Flag holds) segments) :
    underAll guise segments = underAll other segments := by
  match segments with
  | [] => rfl
  | segment :: rest =>
      exact congrArg₂ List.cons (segment_under_congr each flags.1)
        (segments_under_congr each flags.2)
  termination_by structural segments
end

theorem template_under_congr
    (each : ∀ value, holds value → value.under guise = value.under other) {template : Template}
    (holding : template.Each holds) : template.under guise = template.under other := by
  simp only [Template.under, Config.under, segments_under_congr each holding.2,
    options_under_congr each holding.1]

end Congruent

section Resolving

variable {guise : Guise} {base : Store}

theorem missing_under (value : Value) : (value.under guise).isMissing = value.isMissing := by
  cases value <;> rfl

theorem chain_reflects (standardsMode : Value) (name : String) (frames : List Frame) :
    guise.Reflects base (lookupChain standardsMode name frames)
      (lookupChain (standardsMode.under guise) name (frames.map (Frame.under guise))) := by
  induction frames with
  | nil => exact pure_reflects rfl
  | cons frame enclosing induction =>
      apply Mirrors.of_bind (lookup_reflects frame.data name)
      intro value
      rw [missing_under]
      split
      · exact .of_pure value
      · apply Mirrors.of_bind (truth_mirrors standardsMode)
        intro innermost
        dsimp only [id]
        split
        · exact pure_reflects rfl
        · exact induction

theorem path_reflects (value : Value) (parts : List String) :
    guise.Reflects base (lookupPath value parts) (lookupPath (value.under guise) parts) := by
  induction parts generalizing value with
  | nil => exact .of_pure value
  | cons part rest induction =>
      unfold lookupPath
      rw [missing_under]
      split
      · exact .of_pure value
      · exact .of_bind (lookup_reflects value part) induction

theorem Scope.resolve_reflects (scope : Scope) (standardsMode : Value) (name : String) :
    guise.Reflects base (scope.resolve standardsMode name)
      ((scope.under guise).resolve (standardsMode.under guise) name) := by
  unfold Scope.resolve
  split
  · exact .of_pure scope.frame.data
  · split
    · exact pure_reflects rfl
    · split
      · exact pure_reflects rfl
      · split
        · exact pure_reflects rfl
        · split
          · exact pure_reflects rfl
          · next head rest _ =>
              apply Mirrors.of_bind
                (chain_reflects standardsMode head (scope.frame :: scope.enclosing))
              intro value
              exact path_reflects value rest

end Resolving

section Interpolating

variable {guise : Guise} {base : Store} {front : String}

theorem write_mirrors (text : String) :
    Mirrors (guise.Joins base (Behind front)) id (write text) (write text) := by
  rintro ⟨store, written⟩ ⟨store', written'⟩ ⟨links, rfl⟩
  exact ⟨rfl, links, String.append_assoc⟩

theorem replace_reflects (value : Value) (target : Char) (substitute : String) :
    guise.Reflects base (Setting.replaceIn value target substitute)
      (Setting.replaceIn (value.under guise) target substitute) := by
  cases value with
  | text content => exact pure_reflects rfl
  | object host => exact host.invoke_reflects (guise.shows_public "replace" rfl) 2
  | _ => exact .of_throw _

theorem replace_each_reflects (value : Value) (entities : List (Char × String)) :
    guise.Reflects base
      (entities.foldlM (fun value entity => Setting.replaceIn value entity.1 entity.2) value)
      (entities.foldlM (fun value entity => Setting.replaceIn value entity.1 entity.2)
        (value.under guise)) := by
  induction entities generalizing value with
  | nil => exact .of_pure value
  | cons entity entities induction =>
      rw [List.foldlM_cons, List.foldlM_cons]
      exact .of_bind (replace_reflects value _ _) induction

theorem escape_reflects (value : Value) :
    guise.Reflects base (Setting.escapeValue value)
      (Setting.escapeValue (value.under guise)) := by
  cases value with
  | text content => exact pure_reflects rfl
  | _ => exact replace_each_reflects _ _

theorem plain_text_under (value : Value) :
    Setting.plainText (value.under guise) = Setting.plainText value := by
  cases value <;> rfl

theorem shown_escaped_reflects (shown : Setting.Shown) :
    guise.Reflects base shown.escaped (shown.under guise).escaped := by
  obtain ⟨value, replacing⟩ := shown
  cases replacing with
  | none => exact escape_reflects value
  | some replace =>
      exact .of_bind (replace.call_reflects true 2) fun first => replace_each_reflects first _

theorem write_shown_mirrors (escaped : Value) (shown : Setting.Shown) :
    Mirrors (guise.Joins base (Behind front)) id (Setting.writeShown escaped shown)
      (Setting.writeShown (escaped.under guise) (shown.under guise)) := by
  have writes (value : Value) : Mirrors (guise.Joins base (Behind front)) id
      (do write (← (Setting.plainText value : Except Fault String)))
      (do write (← (Setting.plainText (value.under guise) : Except Fault String))) := by
    rw [plain_text_under]
    exact .of_bind (.of_except _) write_mirrors
  apply Mirrors.of_bind (.of_access (truth_mirrors escaped))
  intro flag
  cases flag with
  | true => exact .of_bind (.of_access (shown_escaped_reflects shown)) writes
  | false => exact writes shown.value

theorem shown_mirrors (setting : Setting) (name : String) (line : Nat) (value : Value) :
    Mirrors (guise.Joins base (Behind front)) (Option.map (Setting.Shown.under guise))
      (setting.shown name line value)
      ((setting.under guise).shown name line (value.under guise)) := by
  have written (value : Value) : Mirrors (guise.Joins base (Behind front))
      (Option.map (Setting.Shown.under guise))
      (do
        let text ← liftText value.written
        return some ⟨.text text, value.replacing?⟩)
      (do
        let text ← liftText (value.under guise).written
        return some ⟨.text text, (value.under guise).replacing?⟩) := by
    have lifted : Mirrors (guise.Joins base (Behind front)) id (liftText value.written)
        (liftText (value.under guise).written) := by
      apply Mirrors.of_get
      intro state state' joins
      dsimp only
      rw [Value.written_under joins.1]
      cases value.written state.1 with
      | ok text => exact .of_pure text
      | error fault => exact .of_throw fault
    rw [replacing_under]
    exact .of_bind lifted fun text => .of_pure (some (Setting.Shown.mk (.text text) _))
  obtain ⟨⟨escapeHtml, standardsMode, defaultValue, strictVariables⟩, registry⟩ := setting
  have refused : Mirrors (guise.Joins base (Behind front)) (Option.map (Setting.Shown.under guise))
      (do
        if ← liftAccess strictVariables.truth then throw (.missingVariable name line)
        else return none)
      (do
        if ← liftAccess (strictVariables.under guise).truth then
          throw (.missingVariable name line)
        else return none) := by
    apply Mirrors.of_bind (.of_access (truth_mirrors strictVariables))
    intro flag
    cases flag with
    | true => exact .of_throw _
    | false => exact .of_pure none
  cases value with
  | missing =>
      cases defaultValue with
      | null => exact refused
      | _ => exact .of_pure (some _)
  | null =>
      cases defaultValue with
      | null => exact .of_pure none
      | _ => exact .of_pure (some _)
  | _ => exact written _

end Interpolating

mutual
theorem segment_mirrors {guise : Guise} {base : Store} {front : String} {setting : Setting}
    (respects : setting.registry.Respects guise base) (segment : Segment) (scope : Scope) :
    Mirrors (guise.Joins base (Behind front)) id (renderSegment setting scope segment)
      (renderSegment (setting.under guise) (scope.under guise) (segment.under guise)) := by
  have resolves (name : String) : Mirrors (guise.Joins base (Behind front)) (Value.under guise)
      (setting.resolve scope name) ((setting.under guise).resolve (scope.under guise) name) :=
    .of_access (scope.resolve_reflects setting.options.standardsMode name)
  match segment with
  | .text content => exact write_mirrors content
  | .interpolation name escaped line =>
      apply Mirrors.of_bind (resolves name)
      intro value
      apply Mirrors.of_bind (shown_mirrors setting name line value)
      intro shown
      cases shown with
      | none => exact .of_pure ()
      | some text => exact write_shown_mirrors escaped text
  | .block inverted name line body =>
      have inner (scope : Scope) : Mirrors (guise.Joins base (Behind front)) id
          (renderSegments setting scope body)
          (renderSegments (setting.under guise) (scope.under guise) (underAll guise body)) :=
        segments_mirror respects body scope
      cases inverted with
      | false =>
          apply Mirrors.of_bind (resolves name)
          intro value
          have kind := respects.kind_under value
          simp only [Setting.under] at kind ⊢
          rw [kind]
          cases value.kind setting.registry with
          | missing => exact .of_pure ()
          | null => exact .of_pure ()
          | sequence =>
              exact Value.visit_mirrors (fun placed => inner (scope.nest (.ofPlaced placed)))
                respects value
          | boolean =>
              cases value with
              | bool flag =>
                  cases flag with
                  | true => exact inner scope
                  | false => exact .of_pure ()
              | _ => exact .of_pure ()
          | _ => exact inner (scope.nest (.plain value))
      | true =>
          apply Mirrors.of_bind (resolves name)
          intro value
          apply Mirrors.of_bind (.of_access (respects.falsy_mirrors value))
          intro falsy
          cases falsy with
          | true => exact inner scope
          | false => exact .of_pure ()
  | .included name config body =>
      let setting : Setting := ⟨config.options, setting.registry⟩
      have respects : setting.registry.Respects guise base := respects
      exact segments_mirror respects body (.root scope.frame.data)
  termination_by structural segment
theorem segments_mirror {guise : Guise} {base : Store} {front : String} {setting : Setting}
    (respects : setting.registry.Respects guise base) (segments : List Segment) (scope : Scope) :
    Mirrors (guise.Joins base (Behind front)) id (renderSegments setting scope segments)
      (renderSegments (setting.under guise) (scope.under guise) (underAll guise segments)) := by
  match segments with
  | [] => exact .of_pure ()
  | segment :: rest =>
      apply Mirrors.of_bind (segment_mirrors respects segment scope)
      intro _
      exact segments_mirror respects rest scope
  termination_by structural segments
end

theorem segments_under {guise : Guise} {base store store' : Store}
    (links : guise.Links base store store') {setting : Setting}
    (respects : setting.registry.Respects guise base) (segments : List Segment) (scope : Scope)
    (written : String) :
    let run := (renderSegments setting scope segments).run (store, written)
    let run' := (renderSegments (setting.under guise) (scope.under guise)
      (underAll guise segments)).run (store', written)
    (Rendering.ofRun run').1 = (Rendering.ofRun run).1 ∧ guise.Links base run.2.1 run'.2.1 := by
  intro run run'
  obtain ⟨ended, stored, added⟩ := segments_mirror respects segments scope (store, written)
    (store', written) ⟨links, String.empty_append.symm⟩
  rw [Except.map_id, id] at ended
  unfold Behind at added
  rw [String.empty_append] at added
  exact ⟨congrArg₂ Rendering.mk added (congrArg faultOf ended), stored⟩

/-- What the sink has already makes no difference. Both runs are mirrored by one that is shown all
there is. -/
theorem segments_behind (setting : Setting) (segments : List Segment) (scope : Scope)
    (store : Store) (front : String) :
    (renderSegments setting scope segments).run (store, front) =
      (((renderSegments setting scope segments).run (store, "")).1,
        ((renderSegments setting scope segments).run (store, "")).2.1,
        front ++ ((renderSegments setting scope segments).run (store, "")).2.2) := by
  have links := View.whole.links store store
  have respects : setting.registry.Respects View.whole.guise store :=
    setting.registry.respects_whole store
  obtain ⟨ended, stored, added⟩ := segments_mirror respects segments scope (store, "")
    (store, front) ⟨links, String.append_empty.symm⟩
  obtain ⟨ended', stored', added'⟩ := segments_mirror respects segments scope (store, front)
    (store, front) ⟨links, String.empty_append.symm⟩
  rw [Except.map_id, id] at ended ended'
  unfold Behind at added added'
  rw [String.empty_append] at added'
  refine Prod.ext (ended'.symm.trans ended) (Prod.ext ?_ (added'.symm.trans added))
  exact (View.eq_of_links _ stored').symm.trans (View.eq_of_links _ stored)

end Mustache
