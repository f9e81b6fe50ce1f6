import Mustache.Proofs.Render.Faults
import Mustache.Proofs.Template.Flags
import Mustache.Proofs.Template.Printed

/-!
Templates that escape everything write inert text only. The data decide which sections are rendered
and how often, but what of them is written passes through escaping.
-/

namespace Mustache

set_option autoImplicit false

/-- Faults may be raised, but no text replaces characters in a way of its own. -/
def Deed.IsFault : Deed → Prop
  | .raise _ => True
  | .replace => False

def Options.DefaultText (options : Options) : Prop :=
  options.defaultValue = .null ∨ ∃ text, options.defaultValue = .text text

theorem Upholds.returned {σ α : Type} {allowed : Fault → Prop} {good : α → Prop}
    {access : Access α} (upholds : Upholds allowed good access) {value : α}
    (returns : Returns (liftAccess access : Run σ α) value) : good value := by
  obtain ⟨state, later, run⟩ := returns
  have same : (access.run state.1).1 = .ok value := congrArg Prod.fst run
  have ends := upholds state.1
  rw [same] at ends
  exact ends

namespace Writes

variable {allowed : Deed → Prop} (own : ∀ cause, allowed (.raise (.value cause)))
  {fits : List Char → Prop} (joinable : Joinable fits) {visit : Placed → Run String Unit}
  (each : ∀ placed, placed.element.DoesOnly allowed → Writes fits (visit placed))
include own joinable each

theorem of_visit_from (fuel index : Nat) {element : Value} {cursor : Cursor}
    (first : element.DoesOnly allowed) (others : cursor.DoesOnly allowed) :
    Writes fits (visitFrom visit fuel index element cursor) := by
  induction fuel generalizing index element cursor with
  | zero => exact of_pure joinable ()
  | succ fuel induction =>
      apply of_bind joinable (of_access joinable _)
      intro following returned
      have delivers := (cursor.next_upholds own others).returned returned
      apply of_bind joinable (each _ first)
      intro _ _
      cases following with
      | none => exact of_pure joinable ()
      | some next =>
          obtain ⟨first, others⟩ := delivers next rfl
          exact induction _ first others

theorem of_visit {registry : Registry} (adapters : registry.DoesOnly allowed) {value : Value}
    (only : value.DoesOnly allowed) : Writes fits (value.visit registry visit) := by
  apply of_bind joinable (of_access joinable _)
  intro cursor returned
  have others := (value.elements_upholds own adapters only).returned returned
  apply of_bind joinable (of_get joinable)
  intro state _
  apply of_bind joinable (of_access joinable _)
  intro following returned
  have delivers := (cursor.next_upholds own others).returned returned
  cases following with
  | none => exact of_pure joinable ()
  | some next =>
      obtain ⟨first, others⟩ := delivers next rfl
      exact of_visit_from own joinable each _ _ first others

end Writes

theorem Value.DoesOnly.replacing {value : Value} (only : value.DoesOnly Deed.IsFault) :
    value.replacing? = none := by
  cases value with
  | object host =>
      cases found : host.replacing with
      | none => exact found
      | some replace =>
          have replaces : Deed.replace ∈ (Value.object host).deeds := by
            simp [Value.deeds, found]
          exact (only.own replaces).elim
  | _ => rfl

namespace Setting

variable {setting : Setting} {name : String} {line : Nat} {value : Value} {shown : Shown}

/-- Whatever stands for a value in the output is a text. -/
theorem shown_is_text (default : setting.options.DefaultText)
    (only : value.DoesOnly Deed.IsFault)
    (returns : Returns (setting.shown name line value) (some shown)) :
    ∃ text, shown = ⟨.text text, none⟩ := by
  obtain ⟨state, later, run⟩ := returns
  have written (run : ((do
      return some ⟨.text (← liftText value.written), value.replacing?⟩ :
        Render (Option Shown)).run state = (.ok (some shown), later))) :
      ∃ text, shown = ⟨.text text, none⟩ := by
    obtain ⟨text, middle, _, last⟩ := Action.of_bind_ok run
    cases last
    exact ⟨text, by rw [only.replacing]⟩
  have nothing {fault : Fault} {flag : Bool} {state : Store × String}
      (run : ((if flag then throw fault else return none) : Render (Option Shown)).run
        state = (.ok (some shown), later)) : ∃ text, shown = ⟨.text text, none⟩ := by
    cases flag <;> cases run
  unfold Setting.shown at run
  rcases default with null | ⟨text, fixed⟩
  · rw [null] at run
    cases value with
    | missing =>
        obtain ⟨flag, middle, _, last⟩ := Action.of_bind_ok run
        exact nothing last
    | null => cases run
    | _ => exact written run
  · rw [fixed] at run
    cases value with
    | missing =>
        cases run
        exact ⟨text, rfl⟩
    | null =>
        cases run
        exact ⟨text, rfl⟩
    | _ => exact written run

theorem shown_writes_nothing {fits : List Char → Prop} (joinable : Joinable fits) :
    Writes fits (setting.shown name line value) := by
  have strict : Writes fits (do
      if ← liftAccess setting.options.strictVariables.truth then
        throw (.missingVariable name line)
      else return none : Render (Option Shown)) := by
    apply Writes.of_bind joinable (.of_access joinable _)
    intro flag _
    cases flag with
    | true => exact .of_quiet joinable fun _ => rfl
    | false => exact .of_pure joinable none
  unfold Setting.shown
  dsimp only
  split
  · exact strict
  · exact .of_pure joinable none
  · exact .of_pure joinable _
  · exact .of_pure joinable _
  · exact .of_bind joinable (.of_lift_text joinable _) fun _ _ => .of_pure joinable _

theorem write_escaped_inert (text : String) :
    Writes Text.Inert (writeShown (.bool true) ⟨.text text, none⟩) := by
  have escaped : Writes Text.Inert (write (Text.escape text)) := by
    apply Writes.of_write
    rw [Text.escape, String.toList_ofList]
    exact Text.escape_characters_inert text.toList
  exact escaped

end Setting

mutual
theorem render_segment_inert {setting : Setting} (default : setting.options.DefaultText)
    (adapters : setting.registry.DoesOnly Deed.IsFault) (segment : Segment) {scope : Scope}
    (only : scope.DoesOnly Deed.IsFault)
    (defaults : segment.Everywhere (Segment.Configs (·.options.DefaultText)))
    (escapes : segment.Everywhere Segment.Escapes)
    (unmarked : segment.Everywhere Segment.Unmarked) :
    Writes Text.Inert (renderSegment setting scope segment) := by
  have own (cause : ValueFault) : Deed.IsFault (.raise (.value cause)) := trivial
  match segment with
  | .text content => exact .of_write (Text.inert_of_plain unmarked)
  | .interpolation name escaped line =>
      obtain rfl : escaped = .bool true := escapes
      apply Writes.of_bind inert_joinable (.of_access inert_joinable _)
      intro value returned
      have found := (scope.resolve_gives own only _ name).returned returned
      apply Writes.of_bind inert_joinable (Setting.shown_writes_nothing inert_joinable)
      intro result returned
      cases result with
      | none => exact .of_pure inert_joinable ()
      | some shown =>
          obtain ⟨text, rfl⟩ := Setting.shown_is_text default found returned
          exact Setting.write_escaped_inert text
  | .block inverted name line body =>
      have inner {scope : Scope} (only : scope.DoesOnly Deed.IsFault) :
          Writes Text.Inert (renderSegments setting scope body) :=
        render_segments_inert default adapters body only defaults.2 escapes.2 unmarked.2
      cases inverted with
      | false =>
          apply Writes.of_bind inert_joinable (.of_access inert_joinable _)
          intro value returned
          have found := (scope.resolve_gives own only _ name).returned returned
          cases value.kind setting.registry with
          | missing => exact .of_pure inert_joinable ()
          | null => exact .of_pure inert_joinable ()
          | sequence =>
              apply Writes.of_visit own inert_joinable _ adapters found
              intro placed element
              exact inner (scope.nest_does_only only element)
          | boolean =>
              dsimp only
              split
              · exact inner only
              · exact .of_pure inert_joinable ()
          | _ => exact inner (scope.nest_does_only only found)
      | true =>
          apply Writes.of_bind inert_joinable (.of_access inert_joinable _)
          intro value _
          apply Writes.of_bind inert_joinable (.of_access inert_joinable _)
          intro falsy _
          cases falsy with
          | true => exact inner only
          | false => exact .of_pure inert_joinable ()
  | .included name config body =>
      have own : (Setting.mk config.options setting.registry).options.DefaultText := defaults.1
      exact @render_segments_inert ⟨config.options, setting.registry⟩ own adapters body _
        (Scope.root_does_only (List.forall_mem_cons.mp only).1) defaults.2 escapes.2 unmarked.2
  termination_by structural segment
theorem render_segments_inert {setting : Setting} (default : setting.options.DefaultText)
    (adapters : setting.registry.DoesOnly Deed.IsFault) (segments : List Segment) {scope : Scope}
    (only : scope.DoesOnly Deed.IsFault)
    (defaults : Segment.EverywhereAll (Segment.Configs (·.options.DefaultText)) segments)
    (escapes : Segment.EverywhereAll Segment.Escapes segments)
    (unmarked : Segment.EverywhereAll Segment.Unmarked segments) :
    Writes Text.Inert (renderSegments setting scope segments) := by
  match segments with
  | [] => exact .of_pure inert_joinable ()
  | segment :: rest =>
      have first := render_segment_inert default adapters segment only defaults.1 escapes.1
        unmarked.1
      apply Writes.of_bind inert_joinable first
      intro _ _
      exact render_segments_inert default adapters rest only defaults.2 escapes.2 unmarked.2
  termination_by structural segments
end

theorem render_to_inert (template : Template) {registry : Registry}
    (adapters : registry.DoesOnly Deed.IsFault) {data : Value} (only : data.DoesOnly Deed.IsFault)
    (written : String) (store : Store) (default : template.config.options.DefaultText)
    (defaults : Segment.EverywhereAll (Segment.Configs (·.options.DefaultText)) template.segments)
    (escapes : Segment.EverywhereAll Segment.Escapes template.segments)
    (unmarked : Segment.EverywhereAll Segment.Unmarked template.segments) :
    ∃ out, Text.Inert out ∧
      (template.renderTo registry data written store).1.written.toList = written.toList ++ out := by
  let setting : Setting := ⟨template.config.options, registry⟩
  have fixed : setting.options.DefaultText := default
  obtain ⟨out, inert, added⟩ := render_segments_inert fixed adapters template.segments
    (Scope.root_does_only only) defaults escapes unmarked store written
  exact ⟨out, inert, by rw [Template.render_to_written, added]⟩

end Mustache
