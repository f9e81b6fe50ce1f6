import Mustache.Text.Utf8
import Mustache.Value

/-!
Environment variables in settings. A reference is a dollar sign and a name in braces; the name is
the longest run of characters that are no closing brace, and not empty. Every text of a value has
its references replaced from left to right, and what takes their place is not looked at again.

The system knows variables by octets. A surrogate may stand for an octet there, but not every one
does, so that there are names which cannot even be asked for.
-/

namespace Mustache

set_option autoImplicit false

abbrev Environment := List (String × String)

def takeReference? : List Char → Option (List Char × List Char)
  | '$' :: '{' :: rest =>
      match rest.takeWhile (· ≠ '}'), rest.dropWhile (· ≠ '}') with
      | c :: name, _ :: later => some (c :: name, later)
      | _, _ => none
  | _ => none

def Environment.value? (environment : Environment) (name : String) : Option String := do
  let octets ← Text.nameOctets? name.toList
  let entry ← environment.find? fun entry => Text.nameOctets? entry.1.toList = some octets
  return entry.2

def unsetFault (name : String) : Fault :=
  if (Text.nameOctets? name.toList).isSome then .settings (.unsetVariable name)
  else .value .unencodable

def Environment.get (environment : Environment) (name : String) : Except Fault String :=
  match environment.value? name with
  | some content => .ok content
  | none => .error (unsetFault name)

/-- Replaces the references of a text; the first one to an unset variable is a fault. -/
def Environment.expand (environment : Environment) (text : List Char) :
    Except Fault (List Char) :=
  match _taken : takeReference? text with
  | some (name, later) => do
      let content ← environment.get (String.ofList name)
      return content.toList ++ (← environment.expand later)
  | none =>
      match text with
      | [] => .ok []
      | c :: rest => do return c :: (← environment.expand rest)
  termination_by text.length
  decreasing_by
    · have shorter (rest : List Char) :=
        (List.dropWhile_suffix (· ≠ '}') (l := rest)).length_le
      unfold takeReference? at _taken
      grind
    · simp

mutual
/-- Replaces the references in all texts of a value. Keys stay as they are, and so do values other
than texts, lists and dictionaries. -/
def Value.expand (environment : Environment) : Value → Except Fault Value
  | .text content => do return .text (String.ofList (← environment.expand content.toList))
  | .list items cell => do return .list (← expandEach environment items) cell
  | .mapping .dictionary entries => do
      return .mapping .dictionary (← expandEntries environment entries)
  | value => .ok value
  termination_by structural value => value
def expandEach (environment : Environment) : List Value → Except Fault (List Value)
  | [] => .ok []
  | item :: rest => do
      let item ← item.expand environment
      return item :: (← expandEach environment rest)
  termination_by structural items => items
def expandEntries (environment : Environment) :
    List (Value × Value) → Except Fault (List (Value × Value))
  | [] => .ok []
  | (key, value) :: rest => do
      let value ← value.expand environment
      return (key, value) :: (← expandEntries environment rest)
  termination_by structural entries => entries
end

end Mustache
