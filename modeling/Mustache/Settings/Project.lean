import Mustache.Libraries
import Mustache.Settings
import Mustache.Value.Build

/-!
The settings file of a project: where it is looked for, and reading it. Without such a file the
usual settings hold.
-/

namespace Mustache

set_option autoImplicit false

structure Surroundings where
  files : FileTree
  directory : List String
  environment : Environment
  libraries : Libraries

namespace Settings

def candidates (directory : List String) : List (List String) :=
  [directory ++ [settingsDirectory, "config.yaml"], directory ++ ["whisker.yaml"]]

def discover (files : FileTree) (directory : List String) : Option (List String) :=
  (candidates directory).find? fun place => (files.get? place).isSome

def ofDocument (environment : Environment) (place : List String) (document : Document) :
    Access Settings := do
  let data ← document.toValue
  let data := if ← data.truth then data else .mapping .dictionary []
  let settings ← ofValue environment data
  return { settings with place := some place }

def readFile (around : Surroundings) (path : Path) : Access Settings := do
  let text ← around.files.readText around.directory path
  let document ← around.libraries.yaml text
  ofDocument around.environment (path.resolve around.directory) document

/-- Reads the settings of a given file, or else of the one that is found, if it is looked for. -/
def load (around : Surroundings) (path : Option Path) (lookAround : Bool) : Access Settings := do
  match path with
  | some path =>
      if ← (around.files.exists? around.directory path).mapError Fault.file then
        readFile around path
      else throw (.settings (.noConfig path.text))
  | none =>
      let found := if lookAround then discover around.files around.directory else none
      match found with
      | some place => readFile around (.ofPlace place)
      | none => return standard

def starterText : String :=
  "# Whisker Configuration\n" ++
  "\n" ++
  "# Compiler options\n" ++
  "compiler:\n" ++
  "  escape_html: true        # \x7b\x7bname\x7d\x7d is HTML-escaped; " ++
    "use \x7b\x7b\x7bname\x7d\x7d\x7d or \x7b\x7b&name\x7d\x7d to opt out\n" ++
  "  standards_mode: false    # true disables lookups in enclosing sections\n" ++
  "  # default_value: \"\"      # Text substituted for missing variables\n" ++
  "  strict_variables: false  # true fails on missing variables (when no default_value)\n" ++
  "\n" ++
  "# Partials (\x7b\x7b> name\x7d\x7d) are loaded from this directory\n" ++
  "partials:\n" ++
  "  directory: \"partials\"\n" ++
  "  suffix: \".mustache\"\n" ++
  "\n" ++
  "# Output settings (omit path to write to stdout)\n" ++
  "# output:\n" ++
  "#   path: \"build/index.html\"\n"

end Settings

end Mustache
