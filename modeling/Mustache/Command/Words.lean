/-!
The words of a command line: options, with their values, and all other words. A long option has
its value behind an equals sign or as the next word; short ones can be written together, and the
last of them can be followed by its value directly. After two dashes no word is an option.
-/

namespace Mustache.Command

set_option autoImplicit false

/-- An option by its names, the first of which it is known by. One without a value is a flag. -/
structure OptionSpec where
  names : List String
  takesValue : Bool

def OptionSpec.key (spec : OptionSpec) : String := spec.names.head?.getD ""

/-- The options in the order given, flags with an empty value, and the other words. -/
structure Words where
  options : List (String × String)
  rest : List String
  deriving DecidableEq, Repr

namespace Words

/-- An option that is given several times has the last of its values. -/
def value? (words : Words) (key : String) : Option String := words.options.reverse.lookup key

def has (words : Words) (key : String) : Bool := (words.value? key).isSome

def give (words : Words) (key value : String) : Words :=
  { words with options := (key, value) :: words.options }

def findOption (specs : List OptionSpec) (name : String) : Option OptionSpec :=
  specs.find? (·.names.contains name)

def splitValue (word : String) : String × Option String :=
  let chars := word.toList
  match chars.dropWhile (· ≠ '=') with
  | [] => (word, none)
  | _ :: value => (String.ofList (chars.takeWhile (· ≠ '=')), some (String.ofList value))

/-- Reads short options that are written together; a missing value is taken from the words that
follow. -/
def takeShort (specs : List OptionSpec) :
    List Char → List String → Option (List (String × String) × List String)
  | [], following => some ([], following)
  | c :: more, following => do
      let spec ← findOption specs (String.ofList ['-', c])
      if spec.takesValue then
        match more, following with
        | [], [] => none
        | [], value :: following => some ([(spec.key, value)], following)
        | more, following => some ([(spec.key, String.ofList more)], following)
      else
        let (given, following) ← takeShort specs more following
        some ((spec.key, "") :: given, following)

def takeLong (spec : OptionSpec) (value : Option String) (following : List String) :
    Option ((String × String) × List String) :=
  match spec.takesValue, value, following with
  | true, some value, following => some ((spec.key, value), following)
  | true, none, value :: following => some ((spec.key, value), following)
  | true, none, [] => none
  | false, none, following => some ((spec.key, ""), following)
  | false, some _, _ => none

def takeOption (specs : List OptionSpec) (word : String) (following : List String) :
    Option (List (String × String) × List String) :=
  let (name, value) := splitValue word
  if word.startsWith "--" then do
    let spec ← findOption specs name
    let (given, following) ← takeLong spec value following
    some ([given], following)
  else takeShort specs (word.toList.drop 1) following

/-- Sorts the words of a command line. If options may not stand behind other words, the first of
those ends them. There is no result if an option is unknown, lacks its value or has one too many. -/
def read (specs : List OptionSpec) (interspersed : Bool) : (fuel : Nat) → List String →
    Option Words
  | 0, words => some ⟨[], words⟩
  | _, [] => some ⟨[], []⟩
  | fuel + 1, word :: following =>
      if word = "--" then some ⟨[], following⟩
      else if word.startsWith "-" && word ≠ "-" then do
        let (given, following) ← takeOption specs word following
        let words ← read specs interspersed fuel following
        some { words with options := given ++ words.options }
      else if interspersed then do
        let words ← read specs interspersed fuel following
        some { words with rest := word :: words.rest }
      else some ⟨[], word :: following⟩

/-- Every step takes at least one word. -/
def ofList? (specs : List OptionSpec) (interspersed : Bool) (words : List String) :
    Option Words :=
  read specs interspersed words.length words

end Words

end Mustache.Command
