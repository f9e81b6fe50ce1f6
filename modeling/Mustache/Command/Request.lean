import Mustache.Settings.Project

/-!
What a command line asks for. A word that names a file or directory is checked as soon as it is
read: one that should be there and is not, or is of the wrong sort, makes the whole command line
wrong, as an unknown option does.
-/

namespace Mustache.Command

set_option autoImplicit false

/-- Why a command line is not carried out: it is wrong, or a name in it cannot be one of a file. -/
inductive Refusal where
  | misuse
  | fault (fault : Fault)

structure GlobalOptions where
  config : Option Path
  verbose : Bool
  quiet : Bool
  machine : Bool

structure RenderRequest where
  template : Path
  data : Option Path
  output : Option Path
  partials : Option Path
  noEscape : Bool
  standards : Bool
  defaultValue : Option String
  strict : Bool

structure CheckRequest where
  templates : List Path
  partials : Option Path

inductive Task where
  | render (request : RenderRequest)
  | check (request : CheckRequest)
  | start (overwrite : Bool)
  | help

def globalSpecs : List OptionSpec :=
  [⟨["--config", "-c"], true⟩, ⟨["--verbose", "-v"], false⟩, ⟨["--quiet", "-q"], false⟩,
    ⟨["--ci"], false⟩, ⟨["--version"], false⟩, ⟨["--help"], false⟩]

def renderSpecs : List OptionSpec :=
  [⟨["--data", "-d"], true⟩, ⟨["--output", "-o"], true⟩, ⟨["--partials", "-p"], true⟩,
    ⟨["--no-escape"], false⟩, ⟨["--standards"], false⟩, ⟨["--default"], true⟩,
    ⟨["--strict"], false⟩, ⟨["--help"], false⟩]

def checkSpecs : List OptionSpec := [⟨["--partials", "-p"], true⟩, ⟨["--help"], false⟩]

def startSpecs : List OptionSpec := [⟨["--force"], false⟩, ⟨["--help"], false⟩]

inductive PathKind where
  | file
  | directory
  | anything
  deriving DecidableEq, Repr

def pathKind? (key : String) : Option PathKind :=
  if key = "--config" || key = "--data" then some .file
  else if key = "--partials" then some .directory
  else if key = "--output" then some .anything
  else none

def checkName (around : Surroundings) (kind : PathKind) (name : String) : Except Refusal Unit :=
  match around.files.findNamed around.directory name, kind with
  | .error (.unencodable path), _ => .error (.fault (.file (.unencodable path)))
  | .error (.badPath path), _ => .error (.fault (.file (.badPath path)))
  | _, .anything => .ok ()
  | .ok (.file _), .file => .ok ()
  | .ok .directory, .directory => .ok ()
  | _, _ => .error .misuse

def checkOptions (around : Surroundings) (words : Words) : Except Refusal Unit :=
  words.options.forM fun (key, _) =>
    match pathKind? key, words.value? key with
    | some kind, some name => checkName around kind name
    | _, _ => .ok ()

def path? (words : Words) (key : String) : Option Path := (words.value? key).map Path.read

def wordsOf (libraries : Libraries) (specs : List OptionSpec) (interspersed : Bool)
    (words : List String) : Except Refusal Words :=
  match libraries.words? specs interspersed words with
  | some words => .ok words
  | none => .error .misuse

def readRender (around : Surroundings) (arguments : List String) : Except Refusal Task := do
  let words ← wordsOf around.libraries renderSpecs true arguments
  if words.has "--help" then return .help
  else
    checkOptions around words
    match words.rest with
    | [] => throw .misuse
    | template :: others =>
        checkName around .file template
        if !others.isEmpty then throw .misuse
        else
          return .render {
            template := Path.read template
            data := path? words "--data"
            output := path? words "--output"
            partials := path? words "--partials"
            noEscape := words.has "--no-escape"
            standards := words.has "--standards"
            defaultValue := words.value? "--default"
            strict := words.has "--strict" }

def readCheck (around : Surroundings) (arguments : List String) : Except Refusal Task := do
  let words ← wordsOf around.libraries checkSpecs true arguments
  if words.has "--help" then return .help
  else
    checkOptions around words
    words.rest.forM (checkName around .file)
    if words.rest.isEmpty then throw .misuse
    else return .check ⟨words.rest.map Path.read, path? words "--partials"⟩

def readStart (around : Surroundings) (arguments : List String) : Except Refusal Task := do
  let words ← wordsOf around.libraries startSpecs true arguments
  if words.has "--help" then return .help
  else if !words.rest.isEmpty then throw .misuse
  else return .start (words.has "--force")

def taskReader? (around : Surroundings) (name : String) :
    Option (List String → Except Refusal Task) :=
  if name = "render" then some (readRender around)
  else if name = "check" then some (readCheck around)
  else if name = "init" then some (readStart around)
  else none

/-- The first part of a command line: what holds for all tasks, and the task still to be read. -/
inductive Opening where
  | version
  | help
  | task (options : GlobalOptions) (read : Unit → Except Refusal Task)

/-- Asking for the version or for help counts whatever else is written, unless an option is
wrong. -/
def readOpening (around : Surroundings) (arguments : List String) : Except Refusal Opening := do
  let words ← wordsOf around.libraries globalSpecs false arguments
  match words.options.find? fun option => option.1 = "--version" || option.1 = "--help" with
  | some (key, _) => return if key = "--version" then .version else .help
  | none =>
      checkOptions around words
      match words.rest with
      | [] => throw .misuse
      | name :: own =>
          match taskReader? around name with
          | none => throw .misuse
          | some read =>
              let options : GlobalOptions :=
                { config := path? words "--config"
                  verbose := words.has "--verbose"
                  quiet := words.has "--quiet"
                  machine := words.has "--ci" }
              return .task options fun _ => read own

end Mustache.Command
