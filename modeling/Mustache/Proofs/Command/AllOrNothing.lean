import Mustache.Proofs.Command.Agreement
import Mustache.Proofs.Command.Places
import Mustache.Proofs.Text.Styles

/-!
Rendering from the command line delivers a whole text or nothing. Whatever can fail is done before
anything is printed or put in a file: the settings, the partials, the data, the template and the
rendering of it. The text is the one that the template itself renders. A file takes it as it is; the
standard output takes it without the styles of a terminal.
-/

namespace Mustache.Command

set_option autoImplicit false

def Silent {α : Type} (action : Action α) : Prop :=
  ∀ progress, (action.run progress).2.files = progress.files ∧
    (action.run progress).2.printed = progress.printed

namespace Silent

variable {α β : Type} {action : Action α} {next : α → Action β}

theorem of_run {outcome : Except Stop α} {before later : Progress} (silent : Silent action)
    (run : action.run before = (outcome, later)) :
    later.files = before.files ∧ later.printed = before.printed := by
  have kept := silent before
  rw [run] at kept
  exact kept

theorem of_comes_to {result : Except Stop α} (comes : ComesTo action result) : Silent action := by
  intro progress
  obtain ⟨_, run⟩ := comes progress
  rw [run]
  exact ⟨rfl, rfl⟩

theorem of_pure (value : α) : Silent (pure value) := of_comes_to (.of_pure value)

theorem of_throw (stop : Stop) : Silent (throw stop : Action α) := of_comes_to (.of_throw stop)

theorem of_bind (first : Silent action) (second : ∀ value, Silent (next value)) :
    Silent (action >>= next) := by
  intro progress
  rw [Action.run_bind]
  rcases run : action.run progress with ⟨outcome, later⟩
  obtain ⟨files, printed⟩ := first.of_run run
  cases outcome with
  | error stop => exact ⟨files, printed⟩
  | ok value =>
      obtain ⟨last_files, last_printed⟩ := second value later
      exact ⟨last_files.trans files, last_printed.trans printed⟩

theorem of_or_crash (result : Except Fault α) : Silent (orCrash result) := by
  cases result with
  | error fault => exact of_throw _
  | ok value => exact of_pure value

theorem of_report (record : LogRecord) : Silent (report record) := fun _ => ⟨rfl, rfl⟩

theorem of_tell (level : Int) (message : String) : Silent (tell level message) :=
  of_comes_to (.of_tell level message)

theorem of_lift_access (access : Access α) : Silent (liftAccess access) := fun _ => ⟨rfl, rfl⟩

theorem of_give_up (message : String) (fault : Fault) :
    Silent (giveUp message fault : Action α) := by
  unfold giveUp
  split
  · exact of_bind (of_comes_to (.of_tell_with _ _ _)) fun _ => of_throw _
  · exact of_throw _

end Silent

section Stages

variable (around : Surroundings) (settings : Settings) (request : RenderRequest)

def draw (data : Value) : Except Fault Template → Action String
  | .error fault => do
      report (templateReport fault (some request.template.text))
      throw .failed
  | .ok template => do
      let progress ← get
      let (rendering, store) := template.render Registry.none data progress.store
      set { progress with store := store }
      match rendering.failure with
      | some fault =>
          if fault.isTemplateFault then
            report (templateReport fault (some request.template.text))
            throw .failed
          else crash fault
      | none => return rendering.written

/-- Where the text goes: to the file that the command line names, else to the one that the settings
name, else to the standard output. -/
def destination (store : Store) : Except Fault (Option Path) :=
  match request.output with
  | some path => .ok (some path)
  | none => settingsOutput settings store

def deliver (text : String) : Action Unit := do
  match ← orCrash (destination settings request (← get).store) with
  | none => print around text
  | some path => writeOutput around path text

theorem produce_stages (data : Value) (result : Except Fault Template) :
    produce around settings request data result =
      draw request data result >>= deliver around settings request := by
  cases result with
  | error fault => rfl
  | ok template =>
      funext progress
      change (produce around settings request data (.ok template)).run progress =
        (draw request data (.ok template) >>= deliver around settings request).run progress
      simp only [produce, draw, bind_assoc]
      generalize drawn : template.render Registry.none data progress.store = rendered
      obtain ⟨⟨written, failure⟩, store⟩ := rendered
      have looked : (get : Action Progress).run progress = (.ok progress, progress) := rfl
      rw [Action.run_bind_ok looked, Action.run_bind_ok looked, drawn]
      have stored : (set { progress with store := store } : Action PUnit).run progress =
        (.ok ⟨⟩, { progress with store := store }) := rfl
      dsimp only
      rw [Action.run_bind_ok stored, Action.run_bind_ok stored]
      cases failure with
      | some fault => dsimp only; split <;> rfl
      | none => unfold deliver destination; cases request.output <;> rfl

def compose : Action String := do
  let (data, result) ← prepare around settings request
  draw request data result

theorem render_compose :
    render around settings request =
      compose around settings request >>= deliver around settings request := by
  rw [render_stages, compose, bind_assoc]
  congr 1
  funext prepared
  exact produce_stages around settings request prepared.1 prepared.2

/-- What the template itself renders: it is compiled from its file, with the settings as the flags
change them, and rendered with the data. -/
def Returns (store : Store) (text : String) (last : Store) : Prop :=
  ∃ partials data between octets template,
    partialsFor around settings request.template request.partials = .ok partials ∧
    (readData around request.data).run store = (.ok data, between) ∧
    around.files.readOctets around.directory request.template = .ok octets ∧
    ((configWith around (request.options settings.compiler) partials).runCompile []
      (sourceOf octets)).1 = .ok template ∧
    template.render Registry.none data between = (⟨text, none⟩, last)

end Stages

section Results

variable {around : Surroundings} {settings : Settings} {request : RenderRequest}
  {before later : Progress} {text : String} {last : Store}

theorem give_up_fails {α : Type} {message : String} {fault : Fault} {value : α} :
    (giveUp message fault).run before ≠ (.ok value, later) := by
  intro run
  unfold giveUp at run
  split at run
  · obtain ⟨_, _, _, thrown⟩ := Action.of_bind_ok run
    cases thrown
  · cases run

theorem lift_access_run {α : Type} {access : Access α} {result : Except Fault α} {store : Store}
    (ran : access.run before.store = (result, store)) :
    (liftAccess access).run before = (.ok result, { before with store := store }) := by
  change (Except.ok (access.run before.store).1,
    { before with store := (access.run before.store).2 }) = _
  rw [ran]

theorem load_data_ok_iff {path : Option Path} {data : Value} :
    (loadData around path).run before = (.ok data, later) ↔
      ∃ store, (readData around path).run before.store = (.ok data, store) ∧
        later = { before with store := store } := by
  unfold loadData
  rcases read : (readData around path).run before.store with ⟨result, store⟩
  rw [Action.run_bind_ok (lift_access_run read)]
  cases result with
  | error fault =>
      constructor
      · exact fun run => absurd run give_up_fails
      · rintro ⟨_, ⟨⟩, _⟩
  | ok value =>
      constructor
      · intro run
        cases run
        exact ⟨store, rfl, rfl⟩
      · rintro ⟨_, ⟨⟩, rfl⟩
        rfl

theorem file_result_ok_iff {config : Config} {path : Path} {template : Template} :
    fileResult around config path = .ok (.ok template) ↔
      ∃ octets, around.files.readOctets around.directory path = .ok octets ∧
        (config.runCompile [] (sourceOf octets)).1 = .ok template := by
  unfold fileResult
  cases around.files.readOctets around.directory path with
  | error fault => simp
  | ok octets =>
      generalize compiled : (config.runCompile [] (sourceOf octets)).1 = result
      cases result with
      | ok _ => simp [compiled]
      | error fault => cases told : fault.isTemplateFault <;> simp [compiled, told]

theorem compile_file_ok_iff {config : Config} {path : Path} {template : Template} :
    (∃ later, (compileFile around config path).run before = (.ok (.ok template), later) ∧
        later.store = last) ↔
      (∃ octets, around.files.readOctets around.directory path = .ok octets ∧
        (config.runCompile [] (sourceOf octets)).1 = .ok template) ∧ before.store = last := by
  obtain ⟨records, run⟩ := compile_file_comes_to around config path before
  rw [run, ← file_result_ok_iff]
  constructor
  · rintro ⟨_, ran, rfl⟩
    obtain ⟨result, rfl⟩ := Prod.mk.inj ran
    exact ⟨result, rfl⟩
  · rintro ⟨result, rfl⟩
    exact ⟨_, Prod.ext result rfl, rfl⟩

theorem draw_ok_iff {data : Value} {result : Except Fault Template} :
    (∃ later, (draw request data result).run before = (.ok text, later) ∧ later.store = last) ↔
      ∃ template, result = .ok template ∧
        template.render Registry.none data before.store = (⟨text, none⟩, last) := by
  cases result with
  | error fault =>
      constructor
      · rintro ⟨_, run, _⟩
        obtain ⟨_, _, _, thrown⟩ := Action.of_bind_ok run
        cases thrown
      · rintro ⟨_, ⟨⟩, _⟩
  | ok template =>
      generalize drawn : template.render Registry.none data before.store = rendered
      obtain ⟨⟨written, failure⟩, store⟩ := rendered
      have looked : (get : Action Progress).run before = (.ok before, before) := rfl
      have stored : (set { before with store := store } : Action PUnit).run before =
        (.ok ⟨⟩, { before with store := store }) := rfl
      unfold draw
      rw [Action.run_bind_ok looked, drawn]
      dsimp only
      rw [Action.run_bind_ok stored]
      cases failure with
      | none =>
          constructor
          · rintro ⟨_, run, rfl⟩
            cases run
            exact ⟨template, rfl, drawn⟩
          · rintro ⟨_, ⟨⟩, same⟩
            rw [drawn] at same
            cases same
            exact ⟨_, rfl, rfl⟩
      | some fault =>
          constructor
          · rintro ⟨_, run, _⟩
            dsimp only at run
            split at run
            · obtain ⟨_, _, _, thrown⟩ := Action.of_bind_ok run
              cases thrown
            · cases run
          · rintro ⟨_, ⟨⟩, same⟩
            rw [drawn] at same
            cases same

/-- The command composes what the template renders, and nothing else. -/
theorem compose_ok_iff :
    (∃ later, (compose around settings request).run before = (.ok text, later) ∧
        later.store = last) ↔
      Returns around settings request before.store text last := by
  constructor
  · rintro ⟨later, run, rfl⟩
    obtain ⟨⟨data, result⟩, between, prepared, drawn⟩ := Action.of_bind_ok run
    obtain ⟨template, rfl, rendered⟩ := draw_ok_iff.mp ⟨later, drawn, rfl⟩
    unfold prepare at prepared
    obtain ⟨partials, _, placed, prepared⟩ := Action.of_bind_ok prepared
    obtain ⟨place, rfl⟩ := or_crash_ok placed
    obtain ⟨_, loaded, taken, prepared⟩ := Action.of_bind_ok prepared
    obtain ⟨store, read, rfl⟩ := load_data_ok_iff.mp taken
    obtain ⟨_, _, compiled, prepared⟩ := Action.of_bind_ok prepared
    cases prepared
    obtain ⟨⟨octets, found, compiles⟩, same⟩ := compile_file_ok_iff.mp ⟨between, compiled, rfl⟩
    rw [← same] at rendered
    exact ⟨partials, data, store, octets, template, place, read, found, compiles, rendered⟩
  · rintro ⟨partials, data, store, octets, template, place, read, found, compiles, rendered⟩
    have placed : (orCrash (partialsFor around settings request.template request.partials)).run
        before = (.ok partials, before) := by
      rw [place]
      rfl
    have loaded := load_data_ok_iff.mpr ⟨store, read, rfl⟩
    obtain ⟨between, compiled, same⟩ : ∃ between,
        (compileFile around (configWith around (request.options settings.compiler) partials)
          request.template).run { before with store := store } = (.ok (.ok template), between) ∧
          between.store = store :=
      compile_file_ok_iff.mpr ⟨⟨octets, found, compiles⟩, rfl⟩
    have prepared : (prepare around settings request).run before =
        (.ok (data, .ok template), between) := by
      unfold prepare
      rw [Action.run_bind_ok placed, Action.run_bind_ok loaded, Action.run_bind_ok compiled]
      rfl
    rw [← same] at rendered
    obtain ⟨later, drawn, ended⟩ := draw_ok_iff.mpr ⟨template, rfl, rendered⟩
    exact ⟨later, (Action.run_bind_ok prepared).trans drawn, ended⟩

end Results

section Delivery

variable {around : Surroundings} {settings : Settings} {request : RenderRequest}
  {before : Progress}

theorem load_data_silent (path : Option Path) : Silent (loadData around path) := by
  refine .of_bind (.of_lift_access _) fun result => ?_
  cases result with
  | ok data => exact .of_pure data
  | error fault => exact .of_give_up _ fault

theorem load_settings_silent (config : Option Path) : Silent (loadSettings around config) := by
  refine .of_bind (.of_lift_access _) fun result => ?_
  cases result with
  | error fault => exact .of_give_up _ fault
  | ok settings =>
      dsimp only
      cases settings.place with
      | none => exact .of_bind (.of_pure _) fun _ => .of_pure settings
      | some place => exact .of_bind (.of_tell _ _) fun _ => .of_pure settings

theorem draw_silent (data : Value) (result : Except Fault Template) :
    Silent (draw request data result) := by
  cases result with
  | error fault => exact .of_bind (.of_report _) fun _ => .of_throw _
  | ok template =>
      intro progress
      have looked : (get : Action Progress).run progress = (.ok progress, progress) := rfl
      unfold draw
      rw [Action.run_bind_ok looked]
      generalize template.render Registry.none data progress.store = rendered
      obtain ⟨⟨written, failure⟩, store⟩ := rendered
      cases failure with
      | none => exact ⟨rfl, rfl⟩
      | some fault => cases told : fault.isTemplateFault <;> simp only [told] <;> exact ⟨rfl, rfl⟩

theorem compose_silent : Silent (compose around settings request) := by
  refine .of_bind ?_ fun prepared => draw_silent prepared.1 prepared.2
  refine .of_bind (.of_or_crash _) fun partials => ?_
  refine .of_bind (load_data_silent _) fun data => ?_
  exact .of_bind (.of_comes_to (compile_file_comes_to _ _ _)) fun _ => .of_pure _

theorem stops_of_never_ok {α : Type} {action : Action α}
    (never : ∀ value later, action.run before ≠ (.ok value, later)) :
    ∃ stop later, action.run before = (.error stop, later) := by
  rcases run : action.run before with ⟨outcome, later⟩
  cases outcome with
  | ok value => exact absurd run (never value later)
  | error stop => exact ⟨stop, later, rfl⟩

theorem load_settings_ok (before : Progress) {config : Option Path} {store : Store}
    (loaded : (Settings.load around config true).run before.store = (.ok settings, store)) :
    ∃ later, (loadSettings around config).run before = (.ok settings, later) ∧
      later.store = store := by
  unfold loadSettings
  rw [Action.run_bind_ok (lift_access_run loaded)]
  dsimp only
  cases settings.place with
  | none => exact ⟨_, rfl, rfl⟩
  | some place =>
      obtain ⟨_, told⟩ := ComesTo.of_tell Log.debug ("Loaded config from: " ++ placeText place)
        { before with store := store }
      exact ⟨_, (Action.run_bind_ok told).trans rfl, rfl⟩

theorem load_settings_stops (before : Progress) {config : Option Path} {fault : Fault}
    {store : Store}
    (fails : (Settings.load around config true).run before.store = (.error fault, store)) :
    ∃ stop later, (loadSettings around config).run before = (.error stop, later) := by
  unfold loadSettings
  rw [Action.run_bind_ok (lift_access_run fails)]
  exact stops_of_never_ok fun _ _ => give_up_fails

theorem write_output_run (path : Path) (text : String) :
    (writeOutput around path text).run before =
      match before.files.makeDirectories around.directory path.parent with
      | .error fault => (.error (.crashed (.file fault)), before)
      | .ok made =>
          match made.writeText around.directory path
              (if Text.isEncodable text.toList then text else "") with
          | .error fault => (.error (.crashed (.file fault)), { before with files := made })
          | .ok written =>
              if Text.isEncodable text.toList then
                (tell Log.info
                  ("Wrote " ++ toString text.length ++ " characters to " ++ path.text)).run
                    { before with files := written }
              else (.error (.crashed (.value .unencodable)), { before with files := written }) := by
  have looked : (get : Action Progress).run before = (.ok before, before) := rfl
  unfold writeOutput
  rw [Action.run_bind_ok looked]
  cases before.files.makeDirectories around.directory path.parent with
  | error fault => rfl
  | ok made =>
      have makes : (orCrash ((Except.ok made : Except FileFault FileTree).mapError Fault.file)).run
          before = (.ok made, before) := rfl
      rw [Action.run_bind_ok makes]
      cases Text.isEncodable text.toList with
      | true =>
          simp only [if_true]
          cases made.writeText around.directory path text <;> rfl
      | false =>
          simp only [Bool.false_eq_true, if_false]
          cases made.writeText around.directory path "" <;> rfl

theorem write_output_printed (path : Path) (text : String) :
    ((writeOutput around path text).run before).2.printed = before.printed := by
  rw [write_output_run]
  split
  · rfl
  · split
    · rfl
    · split
      · exact (Silent.of_tell Log.info _ _).2
      · rfl

theorem write_output_succeeds {path : Path} {text : String} {made written : FileTree}
    (encodable : Text.isEncodable text.toList = true)
    (makes : before.files.makeDirectories around.directory path.parent = .ok made)
    (writes : made.writeText around.directory path text = .ok written) :
    ∃ later, (writeOutput around path text).run before = (.ok (), later) := by
  obtain ⟨records, told⟩ := ComesTo.of_tell Log.info
    ("Wrote " ++ toString text.length ++ " characters to " ++ path.text)
    { before with files := written }
  rw [write_output_run, makes]
  dsimp only
  rw [if_pos encodable, writes]
  dsimp only
  rw [if_pos encodable, told]
  exact ⟨_, rfl⟩

end Delivery

/-- The command line asks for this to be rendered, with these options for all tasks. -/
def Asks (around : Surroundings) (arguments : List String) (options : GlobalOptions)
    (request : RenderRequest) : Prop :=
  ∃ read, readOpening around arguments = .ok (.task options read) ∧
    read () = .ok (.render request)

def Refused (around : Surroundings) (arguments : List String) : Prop :=
  (∃ refusal, readOpening around arguments = .error refusal) ∨
    ∃ options read refusal, readOpening around arguments = .ok (.task options read) ∧
      read () = .error refusal

namespace Outcome

variable (around : Surroundings) (outcome : Outcome)

/-- The command has failed, and has neither printed anything nor changed a file or directory. -/
def NothingDone : Prop :=
  outcome.ending.status ≠ 0 ∧ outcome.progress.printed = "" ∧
    outcome.progress.files = around.files

/-- A text has gone to its destination alone. It fails to arrive only if it cannot be encoded or if
writing it fails. What is printed has lost its styles. -/
def Delivers : Except Fault (Option Path) → String → Prop
  | .error _, _ => outcome.NothingDone around
  | .ok none, text =>
      outcome.progress.files = around.files ∧
      (outcome.ending.status = 0 →
        outcome.progress.printed = shownText around text) ∧
      (Text.isEncodable text.toList = true → outcome.ending.status = 0 ∧
        (outcome.progress.printed = text ↔ Text.Unstyled text.toList))
  | .ok (some path), text =>
      outcome.progress.printed = "" ∧
      (outcome.ending.status = 0 → around.files.OnlyWritten outcome.progress.files
        (path.resolve around.directory) (Text.encode text)) ∧
      ∀ made written, Text.isEncodable text.toList = true →
        around.files.makeDirectories around.directory path.parent = .ok made →
        made.writeText around.directory path text = .ok written → outcome.ending.status = 0

end Outcome

section Runs

variable {around : Surroundings} {arguments : List String} {options : GlobalOptions}
  {request : RenderRequest} {settings : Settings}

theorem status_of_stop (stop : Stop) : (Ending.stopped stop).status ≠ 0 := by
  cases stop <;> exact Nat.succ_ne_zero _

theorem run_of_ok {later : Progress}
    (ran : (main around arguments).run (.fresh around) = (.ok (), later)) :
    run around arguments = ⟨.succeeded, later⟩ := by
  have started : (main around arguments).run ⟨.empty, around.files, .untouched, [], ""⟩ =
      (.ok (), later) := ran
  simp only [run, started]

theorem run_of_error {stop : Stop} {later : Progress}
    (ran : (main around arguments).run (.fresh around) = (.error stop, later)) :
    run around arguments = ⟨.stopped stop, later⟩ := by
  have started : (main around arguments).run ⟨.empty, around.files, .untouched, [], ""⟩ =
      (.error stop, later) := ran
  simp only [run, started]

theorem succeeded_iff : (run around arguments).ending.status = 0 ↔
    ∃ later, (main around arguments).run (.fresh around) = (.ok (), later) := by
  rcases ran : (main around arguments).run (.fresh around) with ⟨outcome, later⟩
  cases outcome with
  | ok value =>
      rw [run_of_ok ran]
      exact ⟨fun _ => ⟨later, rfl⟩, fun _ => rfl⟩
  | error stop =>
      rw [run_of_error ran]
      exact ⟨fun ended => absurd ended (status_of_stop stop), by rintro ⟨_, ⟨⟩⟩⟩

theorem run_progress :
    (run around arguments).progress = ((main around arguments).run (.fresh around)).2 := by
  rcases ran : (main around arguments).run (.fresh around) with ⟨outcome, later⟩
  cases outcome with
  | ok value => rw [run_of_ok ran]
  | error stop => rw [run_of_error ran]

theorem nothing_done {stop : Stop} {later : Progress}
    (ran : (main around arguments).run (.fresh around) = (.error stop, later))
    (files : later.files = around.files) (printed : later.printed = "") :
    (run around arguments).NothingDone around := by
  rw [run_of_error ran]
  exact ⟨status_of_stop stop, printed, files⟩

theorem nothing_done_of_stage {α : Type} {stage : Action α} {next : α → Action Unit}
    {before : Progress}
    (ran : (main around arguments).run (.fresh around) = (stage >>= next).run before)
    (files : before.files = around.files) (printed : before.printed = "") (silent : Silent stage)
    (never : ∀ value later, stage.run before ≠ (.ok value, later)) :
    (run around arguments).NothingDone around := by
  obtain ⟨stop, later, stops⟩ := stops_of_never_ok never
  obtain ⟨same_files, same_printed⟩ := silent.of_run stops
  exact nothing_done (ran.trans (Action.run_bind_error stops)) (same_files.trans files)
    (same_printed.trans printed)

def Progress.begun (around : Surroundings) (options : GlobalOptions) : Progress :=
  { Progress.fresh around with
    log := Log.ofFlags options.verbose options.quiet options.machine
      (Log.standardOutlet false) }

theorem main_run {read : Unit → Except Refusal Task}
    (opened : readOpening around arguments = .ok (.task options read)) :
    (main around arguments).run (.fresh around) =
      (loadSettings around options.config >>= fun settings => do
        let task ← orRefuse (read ())
        perform around settings task).run (.begun around options) := by
  unfold main
  rw [opened]
  rfl

theorem refused_does_nothing (refused : Refused around arguments) :
    (run around arguments).NothingDone around := by
  rcases refused with ⟨refusal, failed⟩ | ⟨options, read, refusal, opened, failed⟩
  · have ran : (main around arguments).run (.fresh around) =
        (.error refusal.stop, .fresh around) := by
      unfold main
      rw [failed]
      rfl
    exact nothing_done ran rfl rfl
  · have ran := main_run opened
    rw [failed, ← bind_pure (loadSettings around options.config >>= _)] at ran
    refine nothing_done_of_stage ran rfl rfl
      (.of_bind (load_settings_silent _) fun _ => .of_throw _) ?_
    intro value later succeeds
    obtain ⟨_, _, _, thrown⟩ := Action.of_bind_ok succeeds
    cases thrown

/-- Rendering begins after the settings have been loaded, which prints nothing and changes no
file. -/
theorem render_run (asks : Asks around arguments options request) {store : Store}
    (loaded : (Settings.load around options.config true).run .empty = (.ok settings, store)) :
    ∃ before, before.store = store ∧ before.files = around.files ∧ before.printed = "" ∧
      (main around arguments).run (.fresh around) =
        (compose around settings request >>= deliver around settings request).run before := by
  obtain ⟨read, opened, asked⟩ := asks
  obtain ⟨before, ran, placed⟩ := load_settings_ok (.begun around options) loaded
  obtain ⟨files, printed⟩ := (load_settings_silent options.config).of_run ran
  refine ⟨before, placed, files, printed, ?_⟩
  rw [main_run opened, Action.run_bind_ok ran, asked, ← render_compose]
  rfl

theorem delivers_of_run (unstyles : Text.Unstyles around.libraries.unstyled) {before : Progress}
    {text : String}
    (ran : (main around arguments).run (.fresh around) =
      (deliver around settings request text).run before)
    (files : before.files = around.files) (printed : before.printed = "") :
    (run around arguments).Delivers around (destination settings request before.store) text := by
  have looked : (get : Action Progress).run before = (.ok before, before) := rfl
  unfold deliver at ran
  rw [Action.run_bind_ok looked] at ran
  cases placed : destination settings request before.store with
  | error fault =>
      rw [placed] at ran
      exact nothing_done ran files printed
  | ok output =>
      have chosen : (orCrash (destination settings request before.store)).run before =
          (.ok output, before) := by
        rw [placed]
        rfl
      rw [Action.run_bind_ok chosen] at ran
      cases output with
      | none =>
          dsimp only at ran
          rw [print_run] at ran
          by_cases printable : Printable around text
          · rw [if_pos printable] at ran
            rw [run_of_ok ran, printed]
            refine ⟨files, fun _ => String.empty_append, fun _ => ⟨rfl, ?_⟩⟩
            rw [← unstyles.fixes, String.empty_append, ← String.toList_inj, shownText,
              String.toList_ofList]
          · rw [if_neg printable] at ran
            rw [run_of_error ran]
            refine ⟨files, fun ended => absurd ended (status_of_stop _), fun encodable => ?_⟩
            exact absurd (unstyles.encodable encodable) printable
      | some path =>
          dsimp only at ran
          refine ⟨?_, ?_, ?_⟩
          · rw [run_progress, ran, write_output_printed, printed]
          · intro ended
            obtain ⟨later, succeeds⟩ := succeeded_iff.mp ended
            rw [run_progress, succeeds, ← files]
            exact write_output_ok (ran.symm.trans succeeds)
          · intro made written encodable makes writes
            rw [← files] at makes
            rw [succeeded_iff, ran]
            exact write_output_succeeds encodable makes writes

theorem returned_is_delivered (unstyles : Text.Unstyles around.libraries.unstyled)
    (asks : Asks around arguments options request) {store last : Store} {text : String}
    (loaded : (Settings.load around options.config true).run .empty = (.ok settings, store))
    (returns : Returns around settings request store text last) :
    (run around arguments).Delivers around (destination settings request last) text := by
  obtain ⟨before, rfl, files, printed, ran⟩ := render_run asks loaded
  obtain ⟨later, composed, rfl⟩ := compose_ok_iff.mpr returns
  obtain ⟨same_files, same_printed⟩ := compose_silent.of_run composed
  exact delivers_of_run unstyles (ran.trans (Action.run_bind_ok composed)) (same_files.trans files)
    (same_printed.trans printed)

end Runs

/-- An empty text in the settings names no file. -/
theorem destination_of_text {settings : Settings} {request : RenderRequest} {output : String}
    (free : request.output = none) (written : settings.output = .text output) (store : Store) :
    destination settings request store =
      .ok (if output = "" then none else some (Path.read output)) := by
  unfold destination
  rw [free]
  by_cases empty : output = ""
  · subst empty
    unfold settingsOutput
    rw [written]
    rfl
  · rw [if_neg empty]
    exact settings_output_text written empty store

/-- A command line that asks for rendering ends with the whole text in one place, or unsuccessfully
with nothing printed and no file or directory touched. What fails it before the text is there is the
command line, the settings, or any part of what the template itself returns: its partials, its data,
its file, compiling and rendering. A file holds the text as it was returned. On the standard output
it is the same just if it has no styles in it, since those are taken away. The place is that of the
command line, or else the file that the settings name, if they do. -/
theorem rendering_is_all_or_nothing (around : Surroundings) (arguments : List String)
    (unstyles : Text.Unstyles around.libraries.unstyled) :
    let outcome := run around arguments
    (Refused around arguments → outcome.NothingDone around) ∧
    (∀ options request, Asks around arguments options request →
      (∀ fault later, (Settings.load around options.config true).run .empty =
        (.error fault, later) → outcome.NothingDone around) ∧
      ∀ settings store, (Settings.load around options.config true).run .empty =
          (.ok settings, store) →
        ((¬ ∃ text last, Returns around settings request store text last) →
          outcome.NothingDone around) ∧
        ∀ text last, Returns around settings request store text last →
          outcome.Delivers around (destination settings request last) text) ∧
    ∀ settings (request : RenderRequest) store,
      (∀ path, request.output = some path →
        destination settings request store = .ok (some path)) ∧
      (request.output = none →
        (settings.output = .null → destination settings request store = .ok none) ∧
        ∀ output, settings.output = .text output → destination settings request store =
          .ok (if output = "" then none else some (Path.read output))) := by
  refine ⟨refused_does_nothing, fun options request asks => ⟨?_, ?_⟩,
    fun settings request store => ⟨?_, fun free => ⟨?_, ?_⟩⟩⟩
  · intro fault later fails
    obtain ⟨_, opened, _⟩ := asks
    obtain ⟨stop, stopped, stops⟩ := load_settings_stops (.begun around options) fails
    obtain ⟨files, printed⟩ := (load_settings_silent options.config).of_run stops
    exact nothing_done ((main_run opened).trans (Action.run_bind_error stops)) files printed
  · intro settings store loaded
    refine ⟨fun none => ?_, fun text last => returned_is_delivered unstyles asks loaded⟩
    obtain ⟨before, rfl, files, printed, ran⟩ := render_run asks loaded
    refine nothing_done_of_stage ran files printed compose_silent ?_
    intro text later composed
    exact none ⟨text, later.store, compose_ok_iff.mp ⟨later, composed, rfl⟩⟩
  · intro path named
    unfold destination
    rw [named]
  · intro unwritten
    unfold destination settingsOutput
    rw [free, unwritten]
    rfl
  · exact fun output written => destination_of_text free written store

section Examples

def plainRequest (name : String) : RenderRequest :=
  ⟨Path.read name, none, none, none, false, false, none, false⟩

def plainOptions : GlobalOptions := ⟨none, false, false, false⟩

/-- A name that has not the form of a directory's, whose last part would be nothing or a dot. -/
def NamesFile (name : String) : Prop :=
  name.isEmpty = false ∧ (Text.pieces (· = '/') name.toList).getLast?.getD [] ∉ [[], ['.']]

instance (name : String) : Decidable (NamesFile name) := inferInstanceAs (Decidable (_ ∧ _))

theorem check_name_of_read {around : Surroundings} {name : String} {content : List UInt8}
    (octets : around.files.readOctets around.directory (Path.read name) = .ok content)
    (named : NamesFile name) :
    checkName around .file name = .ok () := by
  have found : around.files.find around.directory (Path.read name) = .ok (.file content) := by
    unfold FileTree.readOctets at octets
    split at octets
    · cases octets
      assumption
    · cases octets
    · cases octets
  have reached : around.files.findNamed around.directory name = .ok (.file content) := by
    obtain ⟨some, plain⟩ := named
    simp only [List.mem_cons, List.not_mem_nil, or_false, not_or] at plain
    simp [FileTree.findNamed, some, plain, found, bind, Except.bind, pure, Except.pure]
  unfold checkName
  rw [reached]

theorem asks_plainly {around : Surroundings} {name : String} {content : List UInt8}
    (globals : wordsOf around.libraries globalSpecs false ["render", name] =
      .ok ⟨[], ["render", name]⟩)
    (own : wordsOf around.libraries renderSpecs true [name] = .ok ⟨[], [name]⟩)
    (octets : around.files.readOctets around.directory (Path.read name) = .ok content)
    (named : NamesFile name) :
    Asks around ["render", name] plainOptions (plainRequest name) := by
  have found := check_name_of_read octets named
  refine ⟨fun _ => readRender around [name], ?_, ?_⟩
  · unfold readOpening
    rw [globals]
    rfl
  · unfold readRender
    rw [own]
    simp only [bind, Except.bind, found]
    rfl

def twoFiles : Surroundings :=
  withFiles [("t", [104, 105]), ("open", [123, 123, 35, 97, 125, 125])]

/-- Of the two templates one is printed, and the other is not, nor is anything else. -/
theorem nothing_is_done_for_an_open_section :
    (Asks twoFiles ["render", "t"] plainOptions (plainRequest "t") ∧
      Returns twoFiles .standard (plainRequest "t") .empty "hi" .empty ∧
      (run twoFiles ["render", "t"]).ending.status = 0 ∧
      (run twoFiles ["render", "t"]).progress.printed = "hi") ∧
    (Asks twoFiles ["render", "open"] plainOptions (plainRequest "open") ∧
      (¬ ∃ text last, Returns twoFiles .standard (plainRequest "open") .empty text last) ∧
      (run twoFiles ["render", "open"]).NothingDone twoFiles) ∧
    Refused twoFiles [] ∧ (run twoFiles []).NothingDone twoFiles := by
  have loaded : (Settings.load twoFiles none true).run .empty = (.ok .standard, .empty) := rfl
  refine ⟨?_, ?_, ?_⟩
  · have octets : twoFiles.files.readOctets twoFiles.directory (plainRequest "t").template =
        .ok [104, 105] := by
      exact except_of_to_option (by decide +kernel)
    have asks : Asks twoFiles ["render", "t"] plainOptions (plainRequest "t") :=
      asks_plainly (except_of_to_option (by decide +kernel))
        (except_of_to_option (by decide +kernel)) octets (by decide +kernel)
    have returns : Returns twoFiles .standard (plainRequest "t") .empty "hi" .empty :=
      ⟨⟨[], ".mustache"⟩, .mapping .dictionary [], .empty, _,
        ⟨[.text "hi"], configWith twoFiles .standard ⟨[], ".mustache"⟩⟩, rfl, rfl, octets, rfl, rfl⟩
    obtain ⟨_, printed, fine⟩ :=
      ((rendering_is_all_or_nothing twoFiles ["render", "t"] Text.strip_unstyles).2.1 _ _
        asks).2 _ _ loaded |>.2 "hi" .empty returns
    obtain ⟨ended, _⟩ := fine (by decide +kernel)
    refine ⟨asks, returns, ended, (printed ended).trans ?_⟩
    exact String.toList_inj.mp (by decide +kernel)
  · have octets : twoFiles.files.readOctets twoFiles.directory (plainRequest "open").template =
        .ok [123, 123, 35, 97, 125, 125] := by
      exact except_of_to_option (by decide +kernel)
    have asks : Asks twoFiles ["render", "open"] plainOptions (plainRequest "open") :=
      asks_plainly (except_of_to_option (by decide +kernel))
        (except_of_to_option (by decide +kernel)) octets (by decide +kernel)
    have none : ¬ ∃ text last,
        Returns twoFiles .standard (plainRequest "open") .empty text last := by
      rintro ⟨_, _, partials, _, _, read, _, placed, _, found, compiles, _⟩
      have place : (⟨[], ".mustache"⟩ : PartialsDirectory) = partials :=
        Except.ok.inj ((rfl : partialsFor twoFiles .standard (plainRequest "open").template none =
          .ok ⟨[], ".mustache"⟩).symm.trans placed)
      cases octets.symm.trans found
      rw [← place] at compiles
      cases compiles
    exact ⟨asks, none,
      ((rendering_is_all_or_nothing twoFiles ["render", "open"] Text.strip_unstyles).2.1 _ _
        asks).2 _ _ loaded |>.1 none⟩
  · have refused : Refused twoFiles [] := .inl ⟨.misuse, rfl⟩
    exact ⟨refused, (rendering_is_all_or_nothing twoFiles [] Text.strip_unstyles).1 refused⟩

def redFiles : Surroundings := withFiles [("red", [27, 91, 51, 49, 109, 114, 101, 100])]

def redText : String := String.ofList (Text.escapeCharacter :: "[31mred".toList)

/-- What the template returns is not what is printed. -/
theorem red_is_not_printed :
    Asks redFiles ["render", "red"] plainOptions (plainRequest "red") ∧
      (Settings.load redFiles none true).run .empty = (.ok .standard, .empty) ∧
      Returns redFiles .standard (plainRequest "red") .empty redText .empty ∧
      Text.isEncodable redText.toList = true ∧
      destination .standard (plainRequest "red") .empty = .ok none ∧
      (run redFiles ["render", "red"]).ending.status = 0 ∧
      (run redFiles ["render", "red"]).progress.printed = "red" ∧ "red" ≠ redText := by
  have loaded : (Settings.load redFiles none true).run .empty = (.ok .standard, .empty) := rfl
  have octets : redFiles.files.readOctets redFiles.directory (plainRequest "red").template =
      .ok [27, 91, 51, 49, 109, 114, 101, 100] := by
    exact except_of_to_option (by decide +kernel)
  have asks : Asks redFiles ["render", "red"] plainOptions (plainRequest "red") :=
    asks_plainly (except_of_to_option (by decide +kernel))
      (except_of_to_option (by decide +kernel)) octets (by decide +kernel)
  have source : sourceOf [27, 91, 51, 49, 109, 114, 101, 100] = .text redText := rfl
  have returns : Returns redFiles .standard (plainRequest "red") .empty redText .empty :=
    ⟨⟨[], ".mustache"⟩, .mapping .dictionary [], .empty, _,
      ⟨[.text redText], configWith redFiles .standard ⟨[], ".mustache"⟩⟩, rfl, rfl, octets,
      by rw [source]; rfl, rfl⟩
  obtain ⟨_, printed, fine⟩ := returned_is_delivered Text.strip_unstyles asks loaded returns
  have encodable : Text.isEncodable redText.toList = true := by decide +kernel
  obtain ⟨ended, _⟩ := fine encodable
  have shown : (run redFiles ["render", "red"]).progress.printed = "red" :=
    (printed ended).trans (String.toList_inj.mp (by decide +kernel))
  exact ⟨asks, loaded, returns, encodable, rfl, ended, shown, by decide +kernel⟩

end Examples

end Mustache.Command
