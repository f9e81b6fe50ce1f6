import Mustache.Document.Yaml.Node
import Mustache.Document.Yaml.Plain

/-!
Documents as YAML. A text holds at most one document; an empty one is null. A mapping can take in
the entries of others by the key `<<`, which gives way to its own entries.
-/

namespace Mustache.Document.Yaml

set_option autoImplicit false

def isKey : Document → Bool
  | .list _ | .mapping _ => false
  | _ => true

def keyMeaning (plain : Bool) (content : String) : Except Fault Document :=
  if plain && content ≠ "=" then meaning content else .ok (.text content)

def constructing {α : Type} (message : String) : Except Fault α :=
  .error (.document (.constructing message))

/-- A tag may say that a node is what it would be anyway, or that a text is meant as it is. -/
def applyTag (tag : String) (node : Node) (plainly : Except Fault Document) :
    Except Fault Document :=
  match node with
  | .scalar _ content =>
      if tag = "" || tag = "!str" then .ok (.text content)
      else if tag = "!null" then .ok .null
      else constructing "could not determine a constructor"
  | .sequence _ => if tag = "" || tag = "!seq" then plainly else constructing "unknown tag"
  | .mapping _ => if tag = "" || tag = "!map" then plainly else constructing "unknown tag"
  | .tagged _ _ => constructing "unknown tag"

def isMergeKey : Node → Bool
  | .scalar true "<<" => true
  | _ => false

/-- The entries that a merge key brings in: of several mappings the first one counts. -/
def mergedEntries : Document → Except Fault (List (Document × Document))
  | .mapping entries => .ok entries
  | .list items => do
      let sources ← items.mapM fun item =>
        match item with
        | .mapping entries => .ok entries
        | _ => constructing "expected a mapping for merging"
      return sources.reverse.flatten
  | _ => constructing "expected a mapping or list of mappings for merging"

mutual
def build : Node → Except Fault Document
  | .scalar plain content => if plain then meaning content else .ok (.text content)
  | .sequence items => do return .list (← buildEach items)
  | .mapping entries => do
      let (merged, own) ← buildEntries entries
      return .mapping (merged ++ own)
  | .tagged tag node => applyTag tag node (build node)
  termination_by structural node => node
def buildEach : List Node → Except Fault (List Document)
  | [] => .ok []
  | node :: rest => do
      let item ← build node
      return item :: (← buildEach rest)
  termination_by structural nodes => nodes
def buildEntries : List (Node × Node) →
    Except Fault (List (Document × Document) × List (Document × Document))
  | [] => .ok ([], [])
  | (key, value) :: rest => do
      if isMergeKey key then
        let brought ← mergedEntries (← build value)
        let (merged, own) ← buildEntries rest
        return (brought ++ merged, own)
      else
        let built ← match key with
          | .scalar plain content => keyMeaning plain content
          | key => build key
        if !isKey built then constructing "found unhashable key"
        else
          let value ← build value
          let (merged, own) ← buildEntries rest
          return (merged, (built, value) :: own)
  termination_by structural entries => entries
end

def read (content : String) : Except Fault Document := do
  let chars := content.toList
  if !chars.all isPrintable then
    throw (.document (.reading "special characters are not allowed"))
  match Node.ofTokens? (tokens chars) with
  | .error fault => throw (.document fault)
  | .ok none => return .null
  | .ok (some node) => build node

end Mustache.Document.Yaml
