import Mustache.Command.Request
import Mustache.Log
import Mustache.Render
import Mustache.Text.Pieces
import Mustache.Text.Utf8

/-!
The command line: rendering a template, checking templates, and making a settings file. A run
starts from a snapshot of the files around it and ends with an exit status, what it printed, the
records of its log and the files as it leaves them. Rendered text is printed or written only when
nothing has failed.
-/

namespace Mustache.Command

set_option autoImplicit false

structure Progress where
  store : Store
  files : FileTree
  log : Log
  records : List LogRecord
  printed : String

/-- How a command ends early: with a wrong command line, after a reported failure, or with a fault
that is not its own. -/
inductive Stop where
  | misuse
  | failed
  | crashed (fault : Fault)

abbrev Action := ExceptT Stop (StateM Progress)

def crash {α : Type} (fault : Fault) : Action α := throw (.crashed fault)

def orCrash {α : Type} : Except Fault α → Action α
  | .ok value => pure value
  | .error fault => crash fault

def liftAccess {α : Type} (access : Access α) : Action (Except Fault α) := do
  let progress ← get
  let (result, store) := access.run progress.store
  set { progress with store := store }
  return result

/-- Prints a text without its styles, which must be one that octets can encode. -/
def print (around : Surroundings) (text : String) : Action Unit := do
  let shown := around.libraries.unstyled text.toList
  if !Text.isEncodable shown then crash (.value .unencodable)
  modify fun progress => { progress with printed := progress.printed ++ String.ofList shown }

def report (record : LogRecord) : Action Unit :=
  modify fun progress => { progress with records := progress.records ++ [record] }

def tellWith (level : Int) (message : String) (reason : Option Fault) : Action Unit := do
  if (← get).log.passes level then report ⟨level, message, reason, []⟩

def tell (level : Int) (message : String) : Action Unit := tellWith level message none

/-- Reports a failure that a fault is the reason of, and gives up. A fault that is none of files,
texts and documents is not reported. -/
def giveUp {α : Type} (message : String) (fault : Fault) : Action α := do
  if fault.isDataFault then
    tellWith Log.error message (some fault)
    throw .failed
  else crash fault

def loadSettings (around : Surroundings) (config : Option Path) : Action Settings := do
  match ← liftAccess (Settings.load around config true) with
  | .error fault => giveUp "Failed to load config" fault
  | .ok settings =>
      match settings.place with
      | some place => tell Log.debug ("Loaded config from: " ++ placeText place)
      | none => pure ()
      return settings

/-- Partials come from the directory that the command line names, else from the one that the
settings name, else from where the template is. -/
def partialsFor (around : Surroundings) (settings : Settings) (template : Path)
    (named : Option Path) : Except Fault PartialsDirectory := do
  match named with
  | some path => return ⟨path.resolve around.directory, Settings.textOfSuffix settings.suffix⟩
  | none =>
      match ← settings.partials? around.directory with
      | some partials => return partials
      | none =>
          return ⟨(template.resolve around.directory).dropLast,
            Settings.textOfSuffix settings.suffix⟩

def RenderRequest.options (request : RenderRequest) (written : Options) : Options where
  escapeHtml := if request.noEscape then .bool false else written.escapeHtml
  standardsMode := if request.standards then .bool true else written.standardsMode
  defaultValue := (request.defaultValue.map Value.text).getD written.defaultValue
  strictVariables := if request.strict then .bool true else written.strictVariables

def configWith (around : Surroundings) (options : Options) (partials : PartialsDirectory) :
    Config :=
  ⟨options, partials.loader around.files 1⟩

/-- A template file. It is read in pieces, and one that is no text throughout fails only where
that shows. -/
def sourceOf (octets : List UInt8) : Source :=
  match FileTree.textOfOctets octets with
  | .ok text => .text text
  | .error fault =>
      let front := Text.readableFront octets
      .stream (if front.isEmpty then [] else [String.ofList front]) (some fault) none

def compileFile (around : Surroundings) (config : Config) (template : Path) :
    Action (Except Fault Template) := do
  tell Log.debug ("Compiling template: " ++ template.text)
  let octets ← orCrash (around.files.readOctets around.directory template)
  let (result, journal) := config.runCompile [] (sourceOf octets)
  journal.notes.forM fun note => tell Log.debug note
  match result with
  | .ok compiled => return .ok compiled
  | .error fault => if fault.isTemplateFault then return .error fault else crash fault

/-- The data to render: by the suffix of its file it is JSON, else YAML, where an empty document
stands for no entries. -/
def readData (around : Surroundings) : Option Path → Access Value
  | none => return .mapping .dictionary []
  | some path => do
      let text ← around.files.readText around.directory path
      if Text.lower path.suffix.toList = ".json".toList then
        let document ← (Document.Json.read text).mapError Fault.document
        document.toValue
      else
        match ← around.libraries.yaml text with
        | .null => return .mapping .dictionary []
        | document => document.toValue

def loadData (around : Surroundings) (path : Option Path) : Action Value := do
  match ← liftAccess (readData around path) with
  | .ok data => return data
  | .error fault =>
      giveUp ("Failed to load data from " ++ (path.map Path.text).getD "None") fault

/-- Where the settings want the output; only text can name a file. -/
def settingsOutput (settings : Settings) (store : Store) : Except Fault (Option Path) := do
  if ← settings.output.isTrue store then
    match settings.output with
    | .text path => return some (Path.read path)
    | _ => throw (.value .wrongType)
  else return none

/-- Writes a text to a file, in directories that are made for it. If octets cannot encode the text
the file is left empty. -/
def writeOutput (around : Surroundings) (path : Path) (text : String) : Action Unit := do
  let made ← orCrash
    (((← get).files.makeDirectories around.directory path.parent).mapError Fault.file)
  modify fun progress => { progress with files := made }
  let encodable := Text.isEncodable text.toList
  let content := if encodable then text else ""
  let written ← orCrash ((made.writeText around.directory path content).mapError Fault.file)
  modify fun progress => { progress with files := written }
  if !encodable then crash (.value .unencodable)
  tell Log.info ("Wrote " ++ toString text.length ++ " characters to " ++ path.text)

def render (around : Surroundings) (settings : Settings) (request : RenderRequest) :
    Action Unit := do
  let partials ← orCrash (partialsFor around settings request.template request.partials)
  let options := request.options settings.compiler
  let data ← loadData around request.data
  match ← compileFile around (configWith around options partials) request.template with
  | .error fault =>
      report (templateReport fault (some request.template.text))
      throw .failed
  | .ok template =>
      let progress ← get
      let (rendering, store) := template.render Registry.none data progress.store
      set { progress with store := store }
      match rendering.failure with
      | some fault =>
          if fault.isTemplateFault then
            report (templateReport fault (some request.template.text))
            throw .failed
          else crash fault
      | none =>
          let output ← match request.output with
            | some path => pure (some path)
            | none => orCrash (settingsOutput settings store)
          match output with
          | none => print around rendering.written
          | some path => writeOutput around path rendering.written

def checkMark : String := "✅ "

def crossMark : String := "❌ "

def checkOne (around : Surroundings) (settings : Settings) (named : Option Path)
    (template : Path) : Action Bool := do
  let partials ← orCrash (partialsFor around settings template named)
  match ← compileFile around (configWith around settings.compiler partials) template with
  | .ok _ =>
      print around (checkMark ++ template.text ++ "\n")
      return true
  | .error fault =>
      report (templateReport fault (some template.text))
      print around (crossMark ++ template.text ++ ": " ++ fault.message ++ "\n")
      return false

def check (around : Surroundings) (settings : Settings) (request : CheckRequest) :
    Action Unit := do
  let results ← request.templates.mapM (checkOne around settings request.partials)
  if !results.all id then throw .failed

def starterFile : Path := Path.read "whisker.yaml"

def start (around : Surroundings) (overwrite : Bool) : Action Unit := do
  let name := starterFile.text
  let present ← orCrash
    (((← get).files.exists? around.directory starterFile).mapError Fault.file)
  if present && !overwrite then
    tell Log.error ("Config already exists: " ++ name)
    tell Log.info "Use --force to overwrite"
    throw .failed
  else
    let written ← orCrash
      (((← get).files.writeText around.directory starterFile Settings.starterText).mapError
        Fault.file)
    modify fun progress => { progress with files := written }
    tell Log.info ("Created config: " ++ name)
    print around (checkMark ++ "Created " ++ name ++ "\n")

def versionText : String := "whisker 0.1.0"

def helpText : String :=
  "Usage: whisker [OPTIONS] COMMAND [ARGS]...\n\n" ++
  "  render TEMPLATE   Render a template against a JSON or YAML data file\n" ++
  "  check TEMPLATES   Compile templates and report errors\n" ++
  "  init              Create a default whisker.yaml\n"

def Refusal.stop : Refusal → Stop
  | .misuse => .misuse
  | .fault cause => .crashed cause

def orRefuse {α : Type} : Except Refusal α → Action α
  | .ok value => pure value
  | .error refusal => throw refusal.stop

def perform (around : Surroundings) (settings : Settings) : Task → Action Unit
  | .render request => render around settings request
  | .check request => check around settings request
  | .start overwrite => start around overwrite
  | .help => print around helpText

/-- Carries out a command line. The arguments of a task are read after the settings. -/
def main (around : Surroundings) (arguments : List String) : Action Unit := do
  match ← orRefuse (readOpening around arguments) with
  | .version => print around (versionText ++ "\n")
  | .help => print around helpText
  | .task options readTask =>
      modify fun progress =>
        { progress with
          log := Log.ofFlags options.verbose options.quiet options.machine
            (Log.standardOutlet false) }
      let settings ← loadSettings around options.config
      let task ← orRefuse (readTask ())
      perform around settings task

inductive Ending where
  | succeeded
  | stopped (stop : Stop)

structure Outcome where
  ending : Ending
  progress : Progress

def Ending.status : Ending → Nat
  | .succeeded => 0
  | .stopped .misuse => 2
  | .stopped .failed => 1
  | .stopped (.crashed _) => 1

def run (around : Surroundings) (arguments : List String) : Outcome :=
  let before : Progress := ⟨Store.empty, around.files, Log.untouched, [], ""⟩
  match (main around arguments).run before with
  | (.ok _, progress) => ⟨.succeeded, progress⟩
  | (.error stop, progress) => ⟨.stopped stop, progress⟩

def Outcome.logged (outcome : Outcome) (moment : Moment) : String :=
  String.join (outcome.progress.records.flatMap fun record =>
    (outcome.progress.log.handle moment record).map (·.2))

end Mustache.Command
