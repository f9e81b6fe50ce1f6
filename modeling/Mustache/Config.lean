import Mustache.Token
import Mustache.Value.Order

/-!
What a template is compiled and rendered with: options, and a loader for its partials.

Options are plain values: a changed set of options is a new value, and the old one keeps its
meaning. An option may hold any value; where a yes or no is asked for its truth decides, and that is
asked for only where it matters.

Loaders hand out the sources of partials by name. What a loader does may depend on what it was
asked before, and it may fail for any reason of its own.
-/

namespace Mustache

set_option autoImplicit false

structure Options where
  /-- Plain interpolations are escaped. -/
  escapeHtml : Value
  /-- Names are looked up in the innermost frame only. -/
  standardsMode : Value
  /-- What is written for a value that is missing or null, unless it is null itself. -/
  defaultValue : Value
  /-- Interpolating a missing value is a fault unless there is a default. -/
  strictVariables : Value

def Options.standard : Options := ⟨.bool true, .bool false, .null, .bool false⟩

/-- `notes` are messages for the log, in order. -/
structure Reply where
  notes : List String
  result : Except Fault Source

/-- Two loaders are one and the same only if they have one identity. `depth` bounds how many
partials with different names can be loaded one inside of the other. -/
structure Loader where
  identity : Nat
  depth : Nat
  reply : (earlier : List String) → (name : String) → Reply

namespace Loader

def failing : Loader where
  identity := 0
  depth := 0
  reply _ name := ⟨[], .error (.load .notConfigured (some name))⟩

def lookup? {α : Type} (entries : List (String × α)) (name : String) : Option α :=
  (entries.find? (·.1 == name)).map (·.2)

def ofTable (identity : Nat) (table : List (String × String)) : Loader where
  identity := identity
  depth := table.length
  reply _ name :=
    match lookup? table name with
    | some content => ⟨[], .ok (.text content)⟩
    | none => ⟨[], .error (.load (.unknownName name) (some name))⟩

end Loader

structure Config where
  options : Options
  loader : Loader

def Config.standard : Config := ⟨.standard, .failing⟩

def Config.same (store : Store) (config other : Config) : Except Fault Bool := do
  let options := config.options
  let others := other.options
  let early ← Value.passEach
    [options.escapeHtml.same store, options.standardsMode.same store,
      options.defaultValue.same store]
    [others.escapeHtml, others.standardsMode, others.defaultValue]
  if early && config.loader.identity == other.loader.identity then
    options.strictVariables.same store others.strictVariables
  else return false

end Mustache
