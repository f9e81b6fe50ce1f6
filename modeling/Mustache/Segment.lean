import Mustache.Config

/-!
Compiled segments. A template is a list of them; a section holds its body, and a partial a template
of its own: the segments of its source, and the config that they were compiled with. Nothing here
remembers delimiters.
-/

namespace Mustache

set_option autoImplicit false

/-- Lines are counted from the start of the source that a segment was written in. What `escaped`
holds is an option as it was written. -/
inductive Segment where
  | text (content : String)
  | interpolation (name : String) (escaped : Value) (line : Nat)
  | block (inverted : Bool) (name : String) (line : Nat) (body : List Segment)
  | included (name : String) (config : Config) (body : List Segment)

namespace Segment

mutual
def same (store : Store) : Segment → Segment → Except Fault Bool
  | .text content, .text other => .ok (content == other)
  | .interpolation name escaped line, .interpolation name' escaped' line' => do
      if name = name' then
        if ← escaped.same store escaped' then return line == line' else return false
      else return false
  | .block inverted name line body, .block inverted' name' line' body' => do
      if inverted = inverted' ∧ name = name' then
        if ← sameAll store body body' then return line == line' else return false
      else return false
  | .included name config body, .included name' config' body' => do
      if name = name' then
        if ← sameAll store body body' then config.same store config' else return false
      else return false
  | _, _ => .ok false
  termination_by structural segment => segment
def sameAll (store : Store) : List Segment → List Segment → Except Fault Bool
  | [], [] => .ok true
  | segment :: rest, other :: others => do
      if ← same store segment other then sameAll store rest others else return false
  | _, _ => .ok false
  termination_by structural segments => segments
end

end Segment

end Mustache
