import Mustache.Config
import Mustache.Loader.Directory
import Mustache.Settings.Environment
import Mustache.Token
import Mustache.Value.Iteration
import Mustache.Value.Lookup
import Mustache.Value.Truth

/-!
Settings of a project: how templates are compiled, where partials are and where output goes. They
are read from the entries of a document after its references to environment variables have been
replaced. What is not written takes its usual value; what is written is kept as it is, of whatever
type, and only has to make sense where it is used.
-/

namespace Mustache

set_option autoImplicit false

/-- `place` is the file that the settings were read from, if there was one. -/
structure Settings where
  compiler : Options
  directory : Value
  suffix : Value
  output : Value
  place : Option (List String)

namespace Settings

def standardSuffix : String := ".mustache"

def standard : Settings := ⟨.standard, .null, .text standardSuffix, .null, none⟩

def field? (entries : List (Value × Value)) (name : String) : Option Value :=
  entries.findSome? fun entry =>
    match entry.1 with
    | .text key => if key = name then some entry.2 else none
    | _ => none

def isText (name : String) : Value → Bool
  | .text content => content = name
  | _ => false

def findText (name : String) : (fuel : Nat) → Cursor → Access Bool
  | 0, _ => return false
  | fuel + 1, cursor => do
      match ← cursor.next with
      | none => return false
      | some (item, rest) => if isText name item then return true else findText name fuel rest

/-- Whether data that is no mapping has a name in it: as a part of a text or as an element. -/
def mentions (data : Value) (name : String) : Access Bool :=
  match data with
  | .text content => return occursIn name.toList content.toList
  | .octets _ | .buffer _ _ => throw (.value .notIterable)
  | .range _ _ _ => return false
  | data => do
      let cursor ← data.cursor
      findText name (cursor.bound (← get) + 1) cursor

/-- What the data has for a section, if anything. What does not count as true is as good as an
empty section. Only mappings have sections, though other data may mention their names. -/
def section? (data : Value) (name : String) : Access (Option Value) :=
  match data with
  | .mapping _ entries => do
      match field? entries name with
      | none => return none
      | some contents =>
          if ← contents.truth then return some contents
          else return some (.mapping .dictionary [])
  | data => do if ← mentions data name then throw (.value .wrongType) else return none

/-- A field of a section, or what it usually is. An object of host code is asked for the field in
its own way, with the usual value as a second argument. -/
def ask (contents : Value) (name : String) (usual : Option Value) : Access Value :=
  match contents with
  | .mapping _ fields => return ((field? fields name).or usual).getD .null
  | .object host => host.invoke "get" (if usual.isSome then 2 else 1)
  | _ => throw (.value .noSuchMember)

def readCompiler (contents : Value) : Access Options := do
  return {
    escapeHtml := ← ask contents "escape_html" (some Options.standard.escapeHtml)
    standardsMode := ← ask contents "standards_mode" (some Options.standard.standardsMode)
    defaultValue := ← ask contents "default_value" none
    strictVariables := ← ask contents "strict_variables" (some Options.standard.strictVariables) }

def beginsWithDot : Value → Access Bool
  | .text suffix => return suffix.startsWith "."
  | .object host => do (← host.invoke "startswith" 1).truth
  | .octets _ | .buffer _ _ => throw (.value .wrongType)
  | _ => throw (.value .noSuchMember)

def textOfSuffix : Value → String
  | .text suffix => suffix
  | .object host => host.text
  | _ => ""

def readPartials (contents : Value) : Access (Value × Value) := do
  let directory ← ask contents "directory" none
  let suffix ← ask contents "suffix" (some (.text standardSuffix))
  if ← beginsWithDot suffix then return (directory, suffix)
  else throw (.settings (.badSuffix (textOfSuffix suffix)))

def ofExpanded (data : Value) : Access Settings := do
  let compiler ← match ← section? data "compiler" with
    | some contents => readCompiler contents
    | none => pure standard.compiler
  let (directory, suffix) ← match ← section? data "partials" with
    | some contents => readPartials contents
    | none => pure (standard.directory, standard.suffix)
  let output ← match ← section? data "output" with
    | some contents => ask contents "path" none
    | none => pure standard.output
  return ⟨compiler, directory, suffix, output, none⟩

def ofValue (environment : Environment) (data : Value) : Access Settings := do
  let expanded ← data.expand environment
  ofExpanded expanded

def settingsDirectory : String := ".whisker"

/-- The directory that relative paths in the settings start from: the one that the file is in, or
the one around it if that holds nothing but settings. -/
def baseDirectory (settings : Settings) (current : List String) : List String :=
  match settings.place with
  | none => current
  | some place =>
      let directory := place.dropLast
      if directory.getLast? = some settingsDirectory then directory.dropLast else directory

def partials? (settings : Settings) (current : List String) :
    Except Fault (Option PartialsDirectory) :=
  match settings.directory with
  | .null => .ok none
  | .text directory =>
      (PartialsDirectory.open? (settings.baseDirectory current) directory
        (textOfSuffix settings.suffix)).map some
  | _ => .error (.value .wrongType)

end Settings

end Mustache
