import Mustache.Command
import Mustache.Proofs.Action

/-!
The stages of the commands that read templates. What a template file is compiled to does not depend
on how far a command has got, and compiling changes nothing but the records of the log. So rendering
a template and checking it each begin with a stage of their own, and that ends with the same
question put to the file.
-/

namespace Mustache.Command

set_option autoImplicit false

/-- An action with this result, which only adds records to the log. -/
def ComesTo {α : Type} (action : Action α) (result : Except Stop α) : Prop :=
  ∀ progress, ∃ records, action.run progress =
    (result, { progress with records := progress.records ++ records })

namespace ComesTo

variable {α β : Type} {action : Action α} {next : α → Action β} {value : α}
  {result : Except Stop β}

theorem of_pure (value : α) : ComesTo (pure value) (.ok value) :=
  fun progress => ⟨[], by rw [List.append_nil]; rfl⟩

theorem of_throw (stop : Stop) : ComesTo (throw stop : Action α) (.error stop) :=
  fun progress => ⟨[], by rw [List.append_nil]; rfl⟩

theorem of_bind (first : ComesTo action (.ok value)) (second : ComesTo (next value) result) :
    ComesTo (action >>= next) result := by
  intro progress
  obtain ⟨records, run⟩ := first progress
  obtain ⟨more, further⟩ := second { progress with records := progress.records ++ records }
  refine ⟨records ++ more, ?_⟩
  rw [Action.run_bind_ok run, further, ← List.append_assoc]

theorem of_tell_with (level : Int) (message : String) (reason : Option Fault) :
    ComesTo (tellWith level message reason) (.ok ()) := by
  intro progress
  by_cases passes : progress.log.passes level = true
  · refine ⟨[⟨level, message, reason, []⟩], ?_⟩
    change (if progress.log.passes level = true then report ⟨level, message, reason, []⟩
      else pure () : Action Unit).run progress = _
    rw [if_pos passes]
    rfl
  · refine ⟨[], ?_⟩
    change (if progress.log.passes level = true then report ⟨level, message, reason, []⟩
      else pure () : Action Unit).run progress = _
    rw [if_neg passes, List.append_nil]
    rfl

theorem of_tell (level : Int) (message : String) : ComesTo (tell level message) (.ok ()) :=
  of_tell_with level message none

theorem of_tell_each (level : Int) (messages : List String) :
    ComesTo (messages.forM (tell level)) (.ok ()) := by
  induction messages with
  | nil => exact of_pure ()
  | cons message messages induction => exact of_bind (of_tell level message) induction

end ComesTo

theorem or_crash_ok {α : Type} {result : Except Fault α} {value : α} {before later : Progress}
    (ran : (orCrash result).run before = (.ok value, later)) :
    result = .ok value ∧ before = later := by
  cases result with
  | error fault => cases ran
  | ok _ =>
      cases ran
      exact ⟨rfl, rfl⟩

/-- What compiling a template file comes to. Faults of the file itself are none of its template. -/
def fileResult (around : Surroundings) (config : Config) (template : Path) :
    Except Stop (Except Fault Template) :=
  match around.files.readOctets around.directory template with
  | .error fault => .error (.crashed fault)
  | .ok octets =>
      match (config.runCompile [] (sourceOf octets)).1 with
      | .ok compiled => .ok (.ok compiled)
      | .error fault =>
          if fault.isTemplateFault then .ok (.error fault) else .error (.crashed fault)

theorem compile_file_comes_to (around : Surroundings) (config : Config) (template : Path) :
    ComesTo (compileFile around config template) (fileResult around config template) := by
  unfold compileFile fileResult
  apply ComesTo.of_bind (.of_tell _ _)
  cases around.files.readOctets around.directory template with
  | error fault => exact .of_throw _
  | ok octets =>
      apply ComesTo.of_bind (.of_pure octets)
      dsimp only
      rcases config.runCompile [] (sourceOf octets) with ⟨result, journal⟩
      apply ComesTo.of_bind (.of_tell_each _ _)
      cases result with
      | ok compiled => exact .of_pure _
      | error fault =>
          dsimp only
          split
          · exact .of_pure _
          · exact .of_throw _

section Rendering

variable (around : Surroundings) (settings : Settings) (request : RenderRequest)

def prepare : Action (Value × Except Fault Template) := do
  let partials ← orCrash (partialsFor around settings request.template request.partials)
  let data ← loadData around request.data
  let compiled ← compileFile around
    (configWith around (request.options settings.compiler) partials) request.template
  return (data, compiled)

def produce (data : Value) : Except Fault Template → Action Unit
  | .error fault => do
      report (templateReport fault (some request.template.text))
      throw .failed
  | .ok template => do
      let progress ← get
      let (rendering, store) := template.render Registry.none data progress.store
      set { progress with store := store }
      match rendering.failure with
      | some fault =>
          if fault.isTemplateFault then
            report (templateReport fault (some request.template.text))
            throw .failed
          else crash fault
      | none =>
          let output ← match request.output with
            | some path => pure (some path)
            | none => orCrash (settingsOutput settings store)
          match output with
          | none => print around rendering.written
          | some path => writeOutput around path rendering.written

theorem render_stages : render around settings request =
    prepare around settings request >>= fun prepared =>
      produce around settings request prepared.1 prepared.2 := by
  simp only [render, prepare, bind_assoc, pure_bind]
  rfl

end Rendering

section Checking

variable (around : Surroundings) (settings : Settings) (named : Option Path) (template : Path)

def verdict : Action (Except Fault Template) := do
  let partials ← orCrash (partialsFor around settings template named)
  compileFile around (configWith around settings.compiler partials) template

def successLine : String := checkMark ++ template.text ++ "\n"

def announce : Except Fault Template → Action Bool
  | .ok _ => do
      print around (successLine template)
      return true
  | .error fault => do
      report (templateReport fault (some template.text))
      print around (crossMark ++ template.text ++ ": " ++ fault.message ++ "\n")
      return false

theorem check_stages : checkOne around settings named template =
    verdict around settings named template >>= announce around template := by
  simp only [checkOne, verdict, bind_assoc]
  rfl

end Checking

def Progress.fresh (around : Surroundings) : Progress :=
  ⟨.empty, around.files, .untouched, [], ""⟩

end Mustache.Command
