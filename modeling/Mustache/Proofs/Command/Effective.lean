import Mustache.Proofs.Command.Stages
import Mustache.Proofs.Loader.Directory
import Mustache.Proofs.Settings.Written

/-!
What a template is compiled with when it is rendered. Each option is what its own flag says, else
what is written under its own key, else what it usually is. Partials come from the directory that
the command line names, else from the one that is written, else from where the template is.
-/

namespace Mustache

set_option autoImplicit false

namespace Command

/-- A flag counts before what is written, and that before what is usual. -/
def chosen (flag written : Option Value) (usual : Value) : Value := (flag.or written).getD usual

def flagged (given meaning : Bool) : Option Value := if given then some (.bool meaning) else none

/-- The directory of the partials of a template: the one that the command line names, else the one
that is written, else the one of the template itself. -/
inductive RootedAt (around : Surroundings) (base : List String) (template : Path) :
    (named : Option Path) → (written : Option Value) → List String → Prop where
  | named (path : Path) (written : Option Value) :
      RootedAt around base template (some path) written (path.resolve around.directory)
  | configured {directory : String} (usable : Text.IsName directory.toList) :
      RootedAt around base template none (some (.text directory))
        ((Path.read directory).resolve base)
  | beside {written : Option Value} (nothing : written = none ∨ written = some .null) :
      RootedAt around base template none written (template.resolve around.directory).dropLast

def configFor (around : Surroundings) (settings : Settings) (request : RenderRequest) :
    Except Fault Config :=
  (partialsFor around settings request.template request.partials).map
    (configWith around (request.options settings.compiler))

theorem render_with_config (around : Surroundings) (settings : Settings)
    (request : RenderRequest) : render around settings request = (do
      let config ← orCrash (configFor around settings request)
      let data ← loadData around request.data
      let compiled ← compileFile around config request.template
      produce around settings request data compiled) := by
  rw [render_stages]
  simp only [prepare, configFor, bind_assoc, pure_bind]
  cases partialsFor around settings request.template request.partials <;> rfl

theorem config_for_ok_iff {around : Surroundings} {settings : Settings} {request : RenderRequest}
    {config : Config} : configFor around settings request = .ok config ↔
      ∃ partials, partialsFor around settings request.template request.partials = .ok partials ∧
        config = configWith around (request.options settings.compiler) partials := by
  unfold configFor
  cases partialsFor around settings request.template request.partials with
  | error fault => exact ⟨nofun, fun ⟨_, chosen, _⟩ => nomatch chosen⟩
  | ok partials =>
      constructor
      · rintro ⟨⟩
        exact ⟨partials, rfl, rfl⟩
      · rintro ⟨_, ⟨⟩, rfl⟩
        rfl

theorem options_chosen (request : RenderRequest)
    (escapeHtml standardsMode defaultValue strictVariables : Option Value) :
    request.options ⟨escapeHtml.getD (.bool true), standardsMode.getD (.bool false),
        defaultValue.getD .null, strictVariables.getD (.bool false)⟩ =
      ⟨chosen (flagged request.noEscape false) escapeHtml (.bool true),
        chosen (flagged request.standards true) standardsMode (.bool false),
        chosen (request.defaultValue.map .text) defaultValue .null,
        chosen (flagged request.strict true) strictVariables (.bool false)⟩ := by
  obtain ⟨template, data, output, partials, noEscape, standards, default, strict⟩ := request
  unfold RenderRequest.options chosen flagged
  cases noEscape <;> cases standards <;> cases default <;> cases strict <;> rfl

theorem roots_named {around : Surroundings} {base : List String} {template path : Path}
    {written : Option Value} {root : List String} :
    RootedAt around base template (some path) written root ↔
      root = path.resolve around.directory := by
  constructor
  · rintro ⟨⟩
    rfl
  · rintro rfl
    exact .named path written

/-- Where partials come from if no directory is named. -/
theorem roots_written {around : Surroundings} {base : List String} {template : Path}
    {written : Option Value} {root : List String} :
    RootedAt around base template none written root ↔
      match written.getD .null with
      | .null => root = (template.resolve around.directory).dropLast
      | .text directory =>
          Text.IsName directory.toList ∧ root = (Path.read directory).resolve base
      | _ => False := by
  constructor
  · intro rooted
    cases rooted with
    | configured usable => exact ⟨usable, rfl⟩
    | beside nothing => rcases nothing with rfl | rfl <;> rfl
  · intro place
    cases written with
    | none =>
        obtain rfl := place
        exact .beside (.inl rfl)
    | some value =>
        cases value with
        | null =>
            obtain rfl := place
            exact .beside (.inr rfl)
        | text directory =>
            obtain ⟨usable, rfl⟩ := place
            exact .configured usable
        | _ => exact place.elim

/-- A directory of partials is chosen just if there is a root for it, and it has the suffix of the
settings. -/
theorem partials_rooted {around : Surroundings} {settings : Settings} {template : Path}
    {named : Option Path} {written : Option Value}
    (directory : settings.directory = written.getD .null) (partials : PartialsDirectory) :
    partialsFor around settings template named = .ok partials ↔
      ∃ root,
        RootedAt around (settings.baseDirectory around.directory) template named written root ∧
          partials = ⟨root, Settings.textOfSuffix settings.suffix⟩ := by
  have same {chosen : PartialsDirectory} :
      (Except.ok chosen : Except Fault PartialsDirectory) = .ok partials ↔ partials = chosen :=
    ⟨fun same => (Except.ok.inj same).symm, fun same => congrArg Except.ok same.symm⟩
  unfold partialsFor
  cases named with
  | some path =>
      simp only [roots_named, exists_eq_left]
      exact same
  | none =>
      simp only [roots_written]
      unfold Settings.partials?
      rw [directory]
      cases written.getD .null with
      | null =>
          dsimp only
          rw [exists_eq_left]
          exact same
      | text directory =>
          dsimp only
          have opens := @PartialsDirectory.open_ok_iff partials
            (settings.baseDirectory around.directory) directory
            (Settings.textOfSuffix settings.suffix)
          cases opened : PartialsDirectory.open? (settings.baseDirectory around.directory) directory
              (Settings.textOfSuffix settings.suffix) with
          | error fault =>
              rw [opened] at opens
              refine ⟨nofun, ?_⟩
              rintro ⟨_, ⟨usable, rfl⟩, rfl⟩
              exact nomatch opens.mpr ⟨usable, rfl⟩
          | ok chosen =>
              rw [opened] at opens
              refine Iff.trans opens ⟨?_, ?_⟩
              · rintro ⟨usable, rfl⟩
                exact ⟨_, ⟨usable, rfl⟩, rfl⟩
              · rintro ⟨_, ⟨usable, rfl⟩, rfl⟩
                exact ⟨usable, rfl⟩
      | _ => exact ⟨nofun, fun ⟨_, never, _⟩ => never.elim⟩

/-- From settings that are accepted a template is rendered with options of which each has its own
flag and its own key. The flag comes first, then what is written under the key, then what is usual.
Partials come from the directory that the command line names, or else from the one that is written,
or else from where the template is, and they have the suffix that is written. -/
theorem each_option_has_its_flag_and_its_key (environment : Environment) (form : MappingForm)
    (entries : List (Value × Value)) (settings : Settings) (store later : Store)
    (accepted : (Settings.ofValue environment (.mapping form entries)).run store =
      (.ok settings, later)) :
    ∃ expanded, (Value.mapping form entries).expand environment = .ok (.mapping form expanded) ∧
    (form = .dictionary → ∀ part, (Settings.field? expanded part).map Except.ok =
      (Settings.field? entries part).map (Value.expand environment)) ∧
    (∀ part name written, Settings.Written expanded part name written →
      (∀ host, Settings.field? expanded part ≠ some (.object host)) →
      written = (Settings.field? expanded part).bind (Settings.fieldIn? · name)) ∧
    ∃ escapeHtml standardsMode defaultValue strictVariables directory suffix,
      Settings.Written expanded "compiler" "escape_html" escapeHtml ∧
      Settings.Written expanded "compiler" "standards_mode" standardsMode ∧
      Settings.Written expanded "compiler" "default_value" defaultValue ∧
      Settings.Written expanded "compiler" "strict_variables" strictVariables ∧
      Settings.Written expanded "partials" "directory" directory ∧
      Settings.Written expanded "partials" "suffix" suffix ∧
      ∀ place around (request : RenderRequest),
        let placed := { settings with place := place }
        (render around placed request = do
          let config ← orCrash (configFor around placed request)
          let data ← loadData around request.data
          let compiled ← compileFile around config request.template
          produce around placed request data compiled) ∧
        ∀ config, configFor around placed request = .ok config ↔
          ∃ root, RootedAt around (placed.baseDirectory around.directory) request.template
              request.partials directory root ∧ config =
              ⟨⟨chosen (flagged request.noEscape false) escapeHtml (.bool true),
                chosen (flagged request.standards true) standardsMode (.bool false),
                chosen (request.defaultValue.map .text) defaultValue .null,
                chosen (flagged request.strict true) strictVariables (.bool false)⟩,
              (PartialsDirectory.mk root
                (Settings.textOfSuffix (suffix.getD (.text ".mustache")))).loader
                  around.files 1⟩ := by
  obtain ⟨expanded, expands, fields, read⟩ := Settings.of_value_expanded accepted
  obtain ⟨escapeHtml, standardsMode, defaultValue, strictVariables, directory, suffix, escapes,
    restricts, replaces, insists, roots, ends, compiler, rooted, ended⟩ :=
    Settings.of_expanded_written read
  refine ⟨expanded, expands, fields, fun part name written has => has.eq_field, _, _, _, _, _, _,
    escapes, restricts, replaces, insists, roots, ends, ?_⟩
  intro place around request placed
  refine ⟨render_with_config around placed request, fun config => ?_⟩
  have options : request.options placed.compiler = _ :=
    (congrArg request.options compiler).trans (options_chosen request _ _ _ _)
  have suffixed : placed.suffix = suffix.getD (.text ".mustache") := ended
  rw [config_for_ok_iff, options]
  simp only [partials_rooted (show placed.directory = directory.getD .null from rooted), suffixed]
  constructor
  · rintro ⟨_, ⟨root, place, rfl⟩, rfl⟩
    exact ⟨root, place, rfl⟩
  · rintro ⟨root, place, rfl⟩
    exact ⟨_, ⟨root, place, rfl⟩, rfl⟩

/-- A null that is written counts as written, and so does an empty text of a flag. -/
theorem null_and_empty_text_are_kept :
    let entries : List (Value × Value) :=
      [(.text "compiler", .mapping .dictionary
        [(.text "escape_html", .null), (.text "default_value", .int 7), (.text "other", .int 1)])]
    let settings : Settings :=
      ⟨⟨.null, .bool false, .int 7, .bool false⟩, .null, .text ".mustache", .null, none⟩
    let around : Surroundings := ⟨.empty, [], [], .standard⟩
    let request : RenderRequest :=
      ⟨Path.read "t", none, none, none, false, true, some "", false⟩
    (Settings.ofValue [] (.mapping .dictionary entries)).run .empty = (.ok settings, .empty) ∧
      configFor around settings request = .ok ⟨⟨.null, .bool true, .text "", .bool false⟩,
        (PartialsDirectory.mk (request.template.resolve []).dropLast ".mustache").loader
          around.files 1⟩ := by
  intro entries settings around request
  have accepted : (Settings.ofValue [] (.mapping .dictionary entries)).run .empty =
      (.ok settings, .empty) := rfl
  obtain ⟨expanded, expands, _, only, _, _, _, _, _, _, escapes, restricts, replaces, insists,
    roots, ends, each⟩ :=
    each_option_has_its_flag_and_its_key [] .dictionary entries settings .empty .empty accepted
  cases expands
  have compiler : ∀ host, Settings.field? entries "compiler" ≠ some (.object host) := nofun
  have partials : ∀ host, Settings.field? entries "partials" ≠ some (.object host) := nofun
  cases only _ _ _ escapes compiler
  cases only _ _ _ restricts compiler
  cases only _ _ _ replaces compiler
  cases only _ _ _ insists compiler
  cases only _ _ _ roots partials
  cases only _ _ _ ends partials
  exact ⟨accepted, ((each none around request).2 _).mpr ⟨_, .beside (.inl rfl), rfl⟩⟩

end Command

end Mustache
