import Mustache.Proofs.Render.Faults
import Mustache.Proofs.Render.Inert
import Mustache.Proofs.Render.Watched
import Mustache.Proofs.Template.Options

/-!
Rendering with strict variables. It differs from rendering without them only at the first name that
stands for nothing, and only if nothing has a default: there it ends. Nothing else can tell the two
apart, neither compiling nor a null that is found.
-/

namespace Mustache

set_option autoImplicit false

def Config.strict (config : Config) (flag : Bool) : Config :=
  { config with options := { config.options with strictVariables := .bool flag } }

/-- Both flags lead to the same segments, but for the config that partials have. -/
theorem compile_strict (config : Config) (chain : List String) (source : Source) :
    ∃ (result : Except Fault (List Segment)) (journal : Journal), ∀ flag,
      (config.strict flag).runCompile chain source =
        (result.map (config.strict flag).template, journal) := by
  obtain ⟨result, journal, runs⟩ := run_compile_carrying config.loader chain source
  refine ⟨result.map (Segment.carryingAll config), journal, ?_⟩
  intro flag
  refine (runs (config.strict flag).options).trans (congrArg (·, journal) ?_)
  cases result with
  | error fault => rfl
  | ok segments =>
      refine congrArg (fun segments => Except.ok (Template.mk segments (config.strict flag))) ?_
      exact (Segment.recast_all_recast_all config.options.escapeHtml.optional id (fun _ => config)
        (fun _ => config.strict flag) segments).symm

theorem write_shown_writes (escaped : Value) (shown : Setting.Shown) :
    Writes (fun _ => True) (Setting.writeShown escaped shown) := by
  have writes (value : Value) : Writes (fun _ => True) (do
      write (← (Setting.plainText value : Except Fault String)) : Render Unit) := by
    cases value with
    | text content => exact .of_write trivial
    | _ => exact .of_quiet anything_joinable fun _ => rfl
  apply Writes.of_bind anything_joinable (.of_access anything_joinable _)
  intro flag _
  cases flag with
  | true =>
      exact .of_bind anything_joinable (.of_access anything_joinable _) fun value _ => writes value
  | false => exact writes shown.value

theorem interpolate_writes (setting : Setting) (name : String) (escaped : Value) (line : Nat)
    (value : Value) : Writes (fun _ => True) (setting.interpolate name escaped line value) := by
  apply Writes.of_bind anything_joinable (Setting.shown_writes_nothing anything_joinable)
  intro shown _
  cases shown with
  | none => exact .of_pure anything_joinable ()
  | some text => exact write_shown_writes escaped text

namespace Tracks

variable {alarming : Sighting → Bool} {action other : Render Unit} {sighting : Sighting}

theorem of_calm (writes : Writes (fun _ => True) action) (calm : alarming sighting = false) :
    Tracks alarming action (sight sighting >>= fun _ => unwatched action) := by
  intro store written seen outcome later text all run
  obtain ⟨out, _, added⟩ := writes store written
  cases run
  refine ⟨[sighting], rfl, ⟨out, added.symm⟩, fun _ => rfl, ?_⟩
  intro other found
  rw [List.find?_singleton, calm] at found
  cases found

theorem of_alarm (writes : Writes (fun _ => True) other) (alarm : alarming sighting = true)
    (ends : ∀ state, action.run state =
      (.error (.missingVariable sighting.name sighting.line), state)) :
    Tracks alarming action (sight sighting >>= fun _ => unwatched other) := by
  intro store written seen outcome later text all run
  obtain ⟨out, _, added⟩ := writes store written
  cases run
  refine ⟨[sighting], rfl, ⟨out, added.symm⟩, ?_, ?_⟩
  · intro none
    rw [List.find?_singleton, alarm] at none
    cases none
  · intro first found
    rw [List.find?_singleton, alarm] at found
    cases found
    exact ⟨store, written, ends _, ⟨out, added.symm⟩⟩

end Tracks

section Interpolation

variable {config : Config} {registry : Registry} {name : String} {escaped : Value} {line : Nat}
  {value : Value}

/-- Only a name that stands for nothing can be refused, and only if nothing has a default. -/
theorem interpolate_strict
    (fine : value.isMissing = false ∨ config.options.defaultValue ≠ .null) :
    Setting.interpolate ⟨(config.strict true).options, registry⟩ name escaped line value =
      Setting.interpolate ⟨(config.strict false).options, registry⟩ name escaped line value := by
  have shown : Setting.shown ⟨(config.strict true).options, registry⟩ name line value =
      Setting.shown ⟨(config.strict false).options, registry⟩ name line value := by
    unfold Setting.shown Config.strict
    dsimp only
    rcases fine with there | substitute
    · cases value with
      | missing => cases there
      | null => cases config.options.defaultValue <;> rfl
      | _ => rfl
    · split
      · next null => exact absurd null substitute
      · rfl
      · rfl
      · rfl
      · rfl
  unfold Setting.interpolate
  rw [shown]

theorem interpolate_missing (null : config.options.defaultValue = .null)
    (state : Store × String) :
    (Setting.interpolate ⟨(config.strict true).options, registry⟩ name escaped line .missing).run
      state = (.error (.missingVariable name line), state) := by
  unfold Setting.interpolate Setting.shown Config.strict
  dsimp only
  rw [null]
  rfl

/-- A null is never refused, whether there is a default for it or not. -/
theorem interpolate_null {setting : Setting} (default : setting.options.DefaultText) (flag : Bool)
    (state : Store × String) :
    ∃ out, (setting.interpolate name (.bool flag) line .null).run state =
      (.ok (), state.1, state.2 ++ out) := by
  unfold Setting.interpolate Setting.shown
  rcases default with null | ⟨text, fixed⟩
  · rw [null]
    exact ⟨"", by rw [String.append_empty]; rfl⟩
  · rw [fixed]
    cases flag with
    | true => exact ⟨Text.escape text, rfl⟩
    | false => exact ⟨text, rfl⟩

end Interpolation

def Template.watchTo (template : Template) (registry : Registry) (data : Value) (written : String)
    (store : Store) : (Rendering × Store) × List Sighting :=
  let action := watchSegments ⟨template.config.options, registry⟩ (.root data) template.segments
  match action.run (store, written, []) with
  | (outcome, later, text, seen) => (Rendering.ofRun (outcome, later, text), seen)

section Flags

variable (config : Config) (registry : Registry) (segments : List Segment) (scope : Scope)

/-- Watching does not change what is watched. -/
theorem lenient_tracks :
    Tracks (fun _ => false)
      (renderSegments ⟨(config.strict false).options, registry⟩ scope
        (Segment.reconfiguredAll (config.strict false) segments))
      (watchSegments ⟨(config.strict false).options, registry⟩ scope
        (Segment.reconfiguredAll (config.strict false) segments)) := by
  apply segments_track rfl
  intro name escaped line value
  exact .of_calm (interpolate_writes _ _ _ _ _) rfl

theorem strict_tracks_with_default (substitute : config.options.defaultValue ≠ .null) :
    Tracks (fun _ => false)
      (renderSegments ⟨(config.strict true).options, registry⟩ scope
        (Segment.reconfiguredAll (config.strict true) segments))
      (watchSegments ⟨(config.strict false).options, registry⟩ scope
        (Segment.reconfiguredAll (config.strict false) segments)) := by
  have standards : (config.strict true).options.standardsMode =
      (config.strict false).options.standardsMode := rfl
  apply segments_track standards
  intro name escaped line value
  rw [interpolate_strict (.inr substitute)]
  exact .of_calm (interpolate_writes _ _ _ _ _) rfl

theorem strict_tracks (null : config.options.defaultValue = .null) :
    Tracks (·.missing)
      (renderSegments ⟨(config.strict true).options, registry⟩ scope
        (Segment.reconfiguredAll (config.strict true) segments))
      (watchSegments ⟨(config.strict false).options, registry⟩ scope
        (Segment.reconfiguredAll (config.strict false) segments)) := by
  have standards : (config.strict true).options.standardsMode =
      (config.strict false).options.standardsMode := rfl
  apply segments_track standards
  intro name escaped line value
  cases there : value.isMissing with
  | false =>
      rw [interpolate_strict (.inl there)]
      exact .of_calm (interpolate_writes _ _ _ _ _) rfl
  | true =>
      obtain rfl : value = .missing := by
        cases value with
        | missing => rfl
        | _ => cases there
      exact .of_alarm (interpolate_writes _ _ _ _ _) rfl (interpolate_missing null)

end Flags

/-- An adapter raises a fault, or makes something that does, for a value that does not. -/
abbrev Registry.Raises (fault : Fault) (registry : Registry) : Prop :=
  ¬ registry.DoesOnly (· ≠ .raise fault)

/-- A value that does not raise a fault does only something else. -/
theorem Value.does_only_else {fault : Fault} {value : Value} (never : ¬ value.Raises fault) :
    value.DoesOnly (· ≠ .raise fault) := by
  rintro deed does rfl
  exact never does

/-- A rendering without strict variables raises nothing for a name that stands for nothing. If it
ends with such a fault, host code has raised it. -/
theorem lenient_missing_is_raised {config : Config} {segments : List Segment}
    {registry : Registry} {data : Value} {written : String} {store : Store} {name : String}
    {line : Int}
    (fails : (((config.strict false).template segments).renderTo registry data written
      store).1.failure = some (.missingVariable name line)) :
    data.Raises (.missingVariable name line) ∨ registry.Raises (.missingVariable name line) ∨
      config.options.defaultValue.Raises (.missingVariable name line) := by
  by_contra never
  obtain ⟨data, registry, default⟩ := by simpa only [not_or] using never
  have permits : (config.strict false).options.Permits
      (· ≠ .raise (.missingVariable name line)) :=
    ⟨Value.does_only_else default, fun _ on => absurd rfl on⟩
  exact render_to_fault (fun _ => nofun) (not_not.mp registry) (Value.does_only_else data) permits
    fails rfl

/-- Whether it is escaped or not, a default that is written for a null raises faults of its own
only. -/
theorem interpolate_null_raised {setting : Setting} {name missing : String} {flag : Bool}
    {line : Nat} {line' : Int} {state : Store × String}
    (fails : ((setting.interpolate name (.bool flag) line .null).run state).1 =
      .error (.missingVariable missing line')) :
    setting.options.defaultValue.Raises (.missingVariable missing line') := by
  by_contra never
  have only : Setting.Shown.DoesOnly (· ≠ .raise (.missingVariable missing line'))
      ⟨setting.options.defaultValue, none⟩ := ⟨Value.does_only_else never, nofun⟩
  have ends := write_shown_upholds (fun _ => nofun) (.bool flag) only state
  unfold Setting.interpolate Setting.shown at fails
  cases default : setting.options.defaultValue with
  | null =>
      rw [default] at fails
      cases fails
  | _ =>
      rw [default] at fails ends
      exact ends.error fails rfl

/-- Strict variables change neither compiling nor, but for one fault, rendering. That fault ends a
rendering at the first name that stands for nothing, when nothing has no default, and what has been
written before is written without strict variables, too. Only host code can raise a fault of the
same kind, and then does so in either case; for a null that is the code of a default which is no
text. -/
theorem strict_rendering_is_conservative (config : Config) :
    (∀ chain source, ∃ (result : Except Fault (List Segment)) (journal : Journal), ∀ flag,
      (config.strict flag).runCompile chain source =
        (result.map (config.strict flag).template, journal)) ∧
    (∀ segments registry data written store,
      let render (flag : Bool) :=
        ((config.strict flag).template segments).renderTo registry data written store
      let watched :=
        ((config.strict false).template segments).watchTo registry data written store
      let unfound := watched.2.find? (·.missing)
      watched.1 = render false ∧
      ((∀ name line, (render true).1.failure ≠ some (.missingVariable name line)) →
        render true = render false) ∧
      (∀ name line, (render true).1.failure = some (.missingVariable name line) →
        (config.options.defaultValue = .null ∧
          (∃ sighting, unfound = some sighting ∧ name = sighting.name ∧ line = sighting.line) ∧
          (render true).1.written.toList <+: (render false).1.written.toList) ∨
        (render true = render false ∧ (config.options.defaultValue = .null → unfound = none) ∧
          (data.Raises (.missingVariable name line) ∨
            registry.Raises (.missingVariable name line) ∨
            config.options.defaultValue.Raises (.missingVariable name line)))) ∧
      (config.options.defaultValue = .null → ∀ sighting, unfound = some sighting →
        (render true).1.failure = some (.missingVariable sighting.name sighting.line))) ∧
    ∀ (setting : Setting) scope name flag line state later,
      (setting.resolve scope name).run state = (.ok .null, later) →
      let run := (renderSegment setting scope (.interpolation name (.bool flag) line)).run state
      (setting.options.DefaultText → ∃ out, run = (.ok (), later.1, later.2 ++ out)) ∧
      ∀ missing line', run.1 = .error (.missingVariable missing line') →
        setting.options.defaultValue.Raises (.missingVariable missing line') := by
  refine ⟨compile_strict config, ?_, ?_⟩
  · intro segments registry data written store render watched unfound
    rcases run : (watchSegments ⟨(config.strict false).options, registry⟩ (.root data)
      (Segment.reconfiguredAll (config.strict false) segments)).run (store, written, []) with
      ⟨outcome, later, text, seen⟩
    have watching : watched = (Rendering.ofRun (outcome, later, text), seen) := by
      have unfolded : watched =
          (fun run => (Rendering.ofRun (run.1, run.2.1, run.2.2.1), run.2.2.2))
            ((watchSegments ⟨(config.strict false).options, registry⟩ (.root data)
              (Segment.reconfiguredAll (config.strict false) segments)).run
                (store, written, [])) := rfl
      rw [unfolded, run]
    have quiet (sightings : List Sighting) : sightings.find? (fun _ => false) = none := by
      simp
    have lenient : render false = Rendering.ofRun (outcome, later, text) := by
      obtain ⟨new, _, _, calm, _⟩ :=
        lenient_tracks config registry segments (.root data) _ _ _ _ _ _ _ run
      exact (Template.render_to_run _ _ _ _ _).trans (congrArg Rendering.ofRun (calm (quiet new)))
    have told : unfound = seen.find? (·.missing) := by
      change watched.2.find? (·.missing) = _
      rw [watching]
    have same (fine : config.options.defaultValue ≠ .null ∨ unfound = none) :
        render true = render false := by
      have strictly : (renderSegments ⟨(config.strict true).options, registry⟩ (.root data)
          (Segment.reconfiguredAll (config.strict true) segments)).run (store, written) =
            (outcome, later, text) := by
        by_cases null : config.options.defaultValue = .null
        · obtain ⟨new, rfl, _, calm, _⟩ :=
            strict_tracks config registry segments (.root data) null _ _ _ _ _ _ _ run
          exact calm (told.symm.trans (fine.resolve_left (not_not.mpr null)))
        · obtain ⟨new, _, _, calm, _⟩ :=
            strict_tracks_with_default config registry segments (.root data) null _ _ _ _ _ _ _ run
          exact calm (quiet new)
      rw [lenient]
      exact (Template.render_to_run _ _ _ _ _).trans (congrArg Rendering.ofRun strictly)
    have halts (null : config.options.defaultValue = .null) (sighting : Sighting)
        (found : unfound = some sighting) :
        (render true).1.failure = some (.missingVariable sighting.name sighting.line) ∧
          (render true).1.written.toList <+: (render false).1.written.toList := by
      obtain ⟨new, rfl, _, _, alarmed⟩ :=
        strict_tracks config registry segments (.root data) null _ _ _ _ _ _ _ run
      obtain ⟨halted, stopped, ended, short⟩ := alarmed sighting (told.symm.trans found)
      have strictly : render true = Rendering.ofRun
          (.error (.missingVariable sighting.name sighting.line), halted, stopped) :=
        (Template.render_to_run _ _ _ _ _).trans (congrArg Rendering.ofRun ended)
      rw [strictly, lenient]
      exact ⟨rfl, short⟩
    refine ⟨by rw [watching, lenient], ?_, ?_,
      fun null sighting found => (halts null sighting found).1⟩
    · intro other
      by_cases null : config.options.defaultValue = .null
      · cases found : unfound with
        | none => exact same (.inr found)
        | some sighting => exact absurd (halts null sighting found).1 (other _ _)
      · exact same (.inl null)
    · intro name line fails
      have raised (alike : render true = render false) := by
        rw [alike] at fails
        exact lenient_missing_is_raised fails
      by_cases null : config.options.defaultValue = .null
      · cases found : unfound with
        | none => exact .inr ⟨same (.inr found), fun _ => rfl, raised (same (.inr found))⟩
        | some sighting =>
            obtain ⟨failure, short⟩ := halts null sighting found
            cases failure.symm.trans fails
            exact .inl ⟨null, ⟨sighting, rfl, rfl, rfl⟩, short⟩
      · exact .inr ⟨same (.inl null), fun none => absurd none null, raised (same (.inl null))⟩
  · intro setting scope name flag line state later resolved run
    have same : run = (setting.interpolate name (.bool flag) line .null).run later :=
      Action.run_bind_ok resolved
    rw [same]
    exact ⟨fun default => interpolate_null default flag later,
      fun _ _ fails => interpolate_null_raised fails⟩

/-- The second of two names stands for nothing, and what is in front of it is written. -/
theorem missing_name_ends_strict_rendering :
    let segments : List Segment :=
      [.interpolation "x" (.bool true) 1, .interpolation "y" (.bool true) 2, .text "b"]
    let data : Value := .mapping .dictionary [(.text "x", .text "a")]
    let render (flag : Bool) :=
      ((Config.standard.strict flag).template segments).renderTo .none data "" .empty
    (render true).1.failure = some (.missingVariable "y" 2) ∧
      (render true).1.written.toList <+: (render false).1.written.toList := by
  intro segments data render
  obtain ⟨_, _, refused, halts⟩ :=
    (strict_rendering_is_conservative .standard).2.1 segments .none data "" .empty
  have unfound : (((Config.standard.strict false).template segments).watchTo .none data ""
      .empty).2.find? (·.missing) = some ⟨"y", 2, true⟩ := by decide +kernel
  have failure := halts rfl _ unfound
  refine ⟨failure, ?_⟩
  rcases refused _ _ failure with ⟨_, _, short⟩ | ⟨_, found, _⟩
  · exact short
  · cases unfound.symm.trans (found rfl)

/-- Host code may raise the fault of a missing variable, too, whatever the default is. A default that
is no text may fail where a null is found. -/
theorem host_code_raises_missing_variable :
    let raising : Value := .routine ⟨0, [], .raises (.missingVariable "b" 7), none⟩
    let host : Value := .object ⟨0, [("f", raising)], [], [], none, none, none, "", "", none⟩
    let data : Value := .mapping .dictionary [(.text "a", host), (.text "n", .null)]
    let failure (default : Value) (name : String) : Option Fault :=
      let options : Options := { Options.standard with defaultValue := default }
      let segments : List Segment := [.interpolation name (.bool true) 1]
      ((((Config.mk options .failing).strict true).template segments).renderTo .none data ""
        .empty).1.failure
    failure (.text "d") "a.f" = some (.missingVariable "b" 7) ∧
      failure (.int 5) "n" = some (.value .noSuchMember) :=
  ⟨rfl, rfl⟩

end Mustache
