import Mustache.Proofs.Command.Stages
import Mustache.Proofs.FileTree
import Mustache.Proofs.Loader.Directory

/-!
Where the paths of a settings file lead. Partials are looked for from the base directory, which is
the one of the file itself or the one around it. Output is written from the working directory, and
what the settings file is called and where it is has no part in that.
-/

namespace Mustache

set_option autoImplicit false

namespace Path

theorem resolve_absolute {place : List String} (plain : parentMark ∉ place)
    (directory : List String) : Path.resolve directory (.ofPlace place) = place := by
  have followed (parts here : List String) (clean : parentMark ∉ parts) :
      parts.foldl follow here = here ++ parts := by
    induction parts generalizing here with
    | nil => simp
    | cons part rest induction =>
        have other : part ≠ parentMark := (List.ne_of_not_mem_cons clean).symm
        have step : follow here part = here ++ [part] := if_neg other
        rw [List.foldl_cons, step, induction _ (List.not_mem_of_not_mem_cons clean),
          List.append_assoc, List.singleton_append]
  exact followed place [] plain

end Path

namespace Settings

variable {around : Surroundings} {store later : Store} {settings : Settings}

theorem of_document_place {environment : Environment} {place : List String}
    {document : Document}
    (read : (ofDocument environment place document).run store = (.ok settings, later)) :
    settings.place = some place := by
  unfold ofDocument at read
  obtain ⟨_, _, _, read⟩ := Action.of_bind_ok read
  obtain ⟨_, _, _, read⟩ := Action.of_bind_ok read
  obtain ⟨_, _, _, read⟩ := Action.of_bind_ok read
  cases read
  rfl

theorem read_file_place {path : Path}
    (read : (readFile around path).run store = (.ok settings, later)) :
    settings.place = some (path.resolve around.directory) := by
  unfold readFile at read
  obtain ⟨_, _, _, read⟩ := Action.of_bind_ok read
  obtain ⟨_, _, _, read⟩ := Action.of_bind_ok read
  exact of_document_place read

theorem load_given_place {path : Path} {lookAround : Bool}
    (loaded : (load around (some path) lookAround).run store = (.ok settings, later)) :
    settings.place = some (path.resolve around.directory) := by
  unfold load at loaded
  obtain ⟨present, _, _, loaded⟩ := Action.of_bind_ok loaded
  cases present with
  | true => exact read_file_place loaded
  | false => cases loaded

theorem candidates_plain {directory place : List String} (plain : Path.parentMark ∉ directory)
    (candidate : place ∈ candidates directory) : Path.parentMark ∉ place := by
  unfold candidates at candidate
  simp only [List.mem_cons, List.not_mem_nil, or_false] at candidate
  have named : Path.parentMark ∉ [settingsDirectory, "config.yaml"] ∧
      Path.parentMark ∉ ["whisker.yaml"] := by decide
  rcases candidate with rfl | rfl
  · exact List.not_mem_append plain named.1
  · exact List.not_mem_append plain named.2

/-- Without a given file, settings are in the place where one is discovered, or in none. -/
theorem load_found_place (plain : Path.parentMark ∉ around.directory)
    (loaded : (load around none true).run store = (.ok settings, later)) :
    settings.place = discover around.files around.directory := by
  unfold load at loaded
  dsimp only at loaded
  rw [if_pos rfl] at loaded
  cases found : discover around.files around.directory with
  | none =>
      rw [found] at loaded
      cases loaded
      rfl
  | some place =>
      rw [found] at loaded
      have candidate : place ∈ candidates around.directory := List.mem_of_find?_eq_some found
      rw [read_file_place loaded, Path.resolve_absolute (candidates_plain plain candidate)]

theorem base_beside {directory : List String} {name : String}
    (placed : settings.place = some (directory ++ [name]))
    (other : directory.getLast? ≠ some settingsDirectory) (current : List String) :
    settings.baseDirectory current = directory := by
  unfold baseDirectory
  rw [placed]
  simp [other]

theorem base_around {directory : List String} {name : String}
    (placed : settings.place = some (directory ++ [settingsDirectory, name]))
    (current : List String) : settings.baseDirectory current = directory := by
  have split : directory ++ [settingsDirectory, name] =
      (directory ++ [settingsDirectory]) ++ [name] := by simp
  unfold baseDirectory
  rw [placed, split]
  simp

theorem partials_place {directory : String} (written : settings.directory = .text directory)
    (fine : Text.IsName directory.toList) (current : List String) :
    settings.partials? current = .ok (some
      ⟨(Path.read directory).resolve (settings.baseDirectory current),
        textOfSuffix settings.suffix⟩) := by
  unfold partials?
  rw [written]
  dsimp only
  rw [PartialsDirectory.open_ok_iff.mpr ⟨fine, rfl⟩]
  rfl

end Settings

namespace Command

variable {around : Surroundings} {settings : Settings} {request : RenderRequest}
  {before between later : Progress}

theorem load_data_files {path : Option Path} {data : Value}
    (loaded : (loadData around path).run before = (.ok data, later)) :
    later.files = before.files := by
  unfold loadData at loaded
  obtain ⟨result, between, looked, loaded⟩ := Action.of_bind_ok loaded
  have kept : between.files = before.files := by
    cases looked
    rfl
  cases result with
  | ok value =>
      cases loaded
      exact kept
  | error fault =>
      dsimp only at loaded
      unfold giveUp at loaded
      split at loaded
      · obtain ⟨_, _, _, thrown⟩ := Action.of_bind_ok loaded
        cases thrown
      · cases loaded

theorem ComesTo.files {α : Type} {action : Action α} {result : Except Stop α}
    (comes : ComesTo action result) (progress : Progress) :
    (action.run progress).2.files = progress.files := by
  obtain ⟨_, run⟩ := comes progress
  rw [run]

theorem prepare_files {prepared : Value × Except Fault Template}
    (ran : (prepare around settings request).run before = (.ok prepared, later)) :
    later.files = before.files := by
  unfold prepare at ran
  obtain ⟨partials, started, placed, ran⟩ := Action.of_bind_ok ran
  obtain ⟨data, between, loaded, ran⟩ := Action.of_bind_ok ran
  obtain ⟨result, ended, compiled, ran⟩ := Action.of_bind_ok ran
  cases ran
  have first : before = started := (or_crash_ok placed).2
  have last := (compile_file_comes_to around
    (configWith around (request.options settings.compiler) partials) request.template).files between
  rw [compiled] at last
  rw [last, load_data_files loaded, first]

theorem map_error_ok {ε δ α : Type} {result : Except ε α} {change : ε → δ} {value : α}
    (succeeds : result.mapError change = .ok value) : result = .ok value := by
  cases result with
  | error failure => cases succeeds
  | ok _ =>
      cases succeeds
      rfl

theorem write_output_ok {path : Path} {text : String}
    (wrote : (writeOutput around path text).run before = (.ok (), later)) :
    before.files.OnlyWritten later.files (path.resolve around.directory) (Text.encode text) := by
  unfold writeOutput at wrote
  obtain ⟨_, _, looked, making⟩ := Action.of_bind_ok wrote
  cases looked
  obtain ⟨made, _, directories, placing⟩ := Action.of_bind_ok making
  obtain ⟨makes, rfl⟩ := or_crash_ok directories
  obtain ⟨_, _, placed, writing⟩ := Action.of_bind_ok placing
  cases placed
  obtain ⟨written, _, file, keeping⟩ := Action.of_bind_ok writing
  obtain ⟨writes, rfl⟩ := or_crash_ok file
  obtain ⟨_, _, kept, telling⟩ := Action.of_bind_ok keeping
  cases kept
  have roomier := FileTree.make_parents_roomier (map_error_ok makes)
  have put := FileTree.write_text_ok (map_error_ok writes)
  cases encodable : Text.isEncodable text.toList with
  | false =>
      simp only [encodable, Bool.not_false, if_true] at telling
      cases telling
  | true =>
      simp only [encodable, if_true] at put
      simp only [encodable, Bool.not_true, Bool.false_eq_true, if_false] at telling
      have told := (ComesTo.of_tell Log.info
        ("Wrote " ++ toString text.length ++ " characters to " ++ path.text)).files
          { before with files := written }
      rw [telling, put] at told
      dsimp only at told
      rw [told]
      exact .of_put roomier _ _

theorem settings_output_text {output : String} (written : settings.output = .text output)
    (some : output ≠ "") (store : Store) :
    settingsOutput settings store = .ok (Option.some (Path.read output)) := by
  have asked : settings.output.isTrue store = .ok true := by
    rw [written]
    simp [Value.isTrue, some]
  unfold settingsOutput
  rw [asked, written]
  rfl

theorem produce_output {data : Value} {result : Except Fault Template} {output : String}
    (free : request.output = none) (written : settings.output = .text output) (some : output ≠ "")
    (ran : (produce around settings request data result).run between = (.ok (), later)) :
    ∃ template, result = .ok template ∧
      (template.render Registry.none data between.store).1.failure = none ∧
      (writeOutput around (Path.read output)
          (template.render Registry.none data between.store).1.written).run
        { between with store := (template.render Registry.none data between.store).2 } =
          (.ok (), later) := by
  cases result with
  | error fault =>
      obtain ⟨_, _, _, thrown⟩ := Action.of_bind_ok ran
      cases thrown
  | ok template =>
      refine ⟨template, rfl, ?_⟩
      unfold produce at ran
      obtain ⟨_, _, looked, rendering⟩ := Action.of_bind_ok ran
      cases looked
      dsimp only at rendering
      obtain ⟨_, _, stored, ending⟩ := Action.of_bind_ok rendering
      cases stored
      cases failed : (template.render Registry.none data between.store).1.failure with
      | some fault =>
          rw [failed] at ending
          dsimp only at ending
          split at ending
          · obtain ⟨_, _, _, thrown⟩ := Action.of_bind_ok ending
            cases thrown
          · cases ending
      | none =>
          rw [failed] at ending
          dsimp only at ending
          rw [free] at ending
          dsimp only at ending
          rw [settings_output_text written some] at ending
          exact ⟨rfl, ending⟩

/-- Rendering that succeeds writes the output that the settings name from the working directory. -/
theorem render_output {output : String} (free : request.output = none)
    (written : settings.output = .text output) (some : output ≠ "")
    (ran : (render around settings request).run before = (.ok (), later)) :
    ∃ data template between,
      (prepare around settings request).run before = (.ok (data, .ok template), between) ∧
      let rendering := (template.render Registry.none data between.store).1
      rendering.failure = none ∧
      before.files.OnlyWritten later.files ((Path.read output).resolve around.directory)
        (Text.encode rendering.written) := by
  rw [render_stages] at ran
  obtain ⟨⟨data, result⟩, between, prepared, produced⟩ := Action.of_bind_ok ran
  obtain ⟨template, rfl, fine, wrote⟩ := produce_output free written some produced
  refine ⟨data, template, between, prepared, fine, ?_⟩
  intro place content
  rw [write_output_ok wrote place content, prepare_files prepared]

/-- Settings are in the place that the path given for them means, or else in the one where they are
discovered, and the base directory follows from that. The directory of partials that they name is
one in the base directory. The output that they name is a file in the working directory: if
rendering succeeds, that file alone is written. So it is the one that the same path means from the
base directory only if the two places are one, or if nothing has changed in either. -/
theorem settings_paths_have_two_starts (around : Surroundings) :
    (∀ path lookAround store settings later,
      (Settings.load around (some path) lookAround).run store = (.ok settings, later) →
        settings.place = some (path.resolve around.directory)) ∧
    (Path.parentMark ∉ around.directory → ∀ store settings later,
      (Settings.load around none true).run store = (.ok settings, later) →
        settings.place = Settings.discover around.files around.directory) ∧
    (∀ (settings : Settings) directory name current,
      (settings.place = some (directory ++ [Settings.settingsDirectory, name]) →
        settings.baseDirectory current = directory) ∧
      (settings.place = some (directory ++ [name]) →
        directory.getLast? ≠ some Settings.settingsDirectory →
          settings.baseDirectory current = directory)) ∧
    ∀ settings (request : RenderRequest), request.partials = none → request.output = none →
      (∀ directory, settings.directory = .text directory → Text.IsName directory.toList →
        partialsFor around settings request.template request.partials = .ok
          ⟨(Path.read directory).resolve (settings.baseDirectory around.directory),
            Settings.textOfSuffix settings.suffix⟩) ∧
      ∀ output before later, settings.output = .text output → output ≠ "" →
        (render around settings request).run before = (.ok (), later) →
        ∃ data template between,
          (prepare around settings request).run before = (.ok (data, .ok template), between) ∧
          let rendering := (template.render Registry.none data between.store).1
          let content := Text.encode rendering.written
          let place := (Path.read output).resolve around.directory
          let beside := (Path.read output).resolve (settings.baseDirectory around.directory)
          rendering.failure = none ∧ before.files.OnlyWritten later.files place content ∧
            (before.files.OnlyWritten later.files beside content ↔
              beside = place ∨ before.files.get? place = some (.file content) ∧
                before.files.get? beside = some (.file content)) := by
  refine ⟨?_, ?_, ?_, ?_⟩
  · intro path lookAround store settings later loaded
    exact Settings.load_given_place loaded
  · intro plain store settings later loaded
    exact Settings.load_found_place plain loaded
  · intro settings directory name current
    exact ⟨fun placed => Settings.base_around placed current,
      fun placed other => Settings.base_beside placed other current⟩
  · intro settings request unnamed free
    constructor
    · intro directory written fine
      rw [unnamed]
      unfold partialsFor
      dsimp only
      rw [Settings.partials_place written fine]
      rfl
    · intro output before later written some ran
      obtain ⟨data, template, between, prepared, fine, wrote⟩ :=
        render_output free written some ran
      exact ⟨data, template, between, prepared, fine, wrote, wrote.elsewhere_iff _⟩

def aroundProject : Surroundings :=
  ⟨(FileTree.empty.put ["sub"] .directory).put ["t.mustache"] (.file [104, 105]), [], [], .standard⟩

def projectSettings : Settings :=
  ⟨.standard, .text "parts", .text ".mustache", .text "out.txt", some ["sub", "whisker.yaml"]⟩

def projectRequest : RenderRequest :=
  ⟨Path.read "t.mustache", none, none, none, false, false, none, false⟩

theorem project_is_rendered : ∃ later,
    (render aroundProject projectSettings projectRequest).run (.fresh aroundProject) =
      (.ok (), later) := by
  have succeeds : ((render aroundProject projectSettings projectRequest).run
      (.fresh aroundProject)).1.isOk = true := by
    decide +kernel
  obtain ⟨_, ended⟩ := except_of_is_ok succeeds
  exact ⟨_, Prod.ext ended rfl⟩

/-- The project has its partials beside its settings, and its output in the working directory. -/
theorem output_is_not_beside_its_settings :
    projectSettings.baseDirectory aroundProject.directory = ["sub"] ∧
      partialsFor aroundProject projectSettings projectRequest.template none =
        .ok ⟨["sub", "parts"], ".mustache"⟩ ∧
      ∃ later content,
        (render aroundProject projectSettings projectRequest).run (.fresh aroundProject) =
          (.ok (), later) ∧
        aroundProject.files.OnlyWritten later.files ["out.txt"] content := by
  obtain ⟨_, _, bases, places⟩ := settings_paths_have_two_starts aroundProject
  obtain ⟨partials, outputs⟩ := places projectSettings projectRequest rfl rfl
  have fine : Text.IsName "parts".toList := Path.part_fault_none_iff "" "parts" |>.mp (by decide)
  obtain ⟨later, ran⟩ := project_is_rendered
  obtain ⟨_, _, _, _, _, wrote, _⟩ := outputs "out.txt" _ _ rfl (by decide) ran
  exact ⟨(bases projectSettings ["sub"] "whisker.yaml" []).2 rfl (by decide),
    (partials "parts" rfl fine).trans rfl, later, _, ran, wrote⟩

/-- What is rendered of the project is not written beside its settings. -/
theorem nothing_is_written_beside_the_settings :
    ∃ later,
      (render aroundProject projectSettings projectRequest).run (.fresh aroundProject) =
        (.ok (), later) ∧
      ∀ content, later.files.get?
        ((Path.read "out.txt").resolve (projectSettings.baseDirectory aroundProject.directory)) ≠
          some (.file content) := by
  obtain ⟨later, ran⟩ := project_is_rendered
  obtain ⟨_, _, _, _, _, wrote⟩ := render_output rfl rfl (by decide) ran
  refine ⟨later, ran, ?_⟩
  intro content there
  have found := (wrote _ content).mp there
  rw [if_neg (by decide +kernel)] at found
  cases found

end Command

end Mustache
