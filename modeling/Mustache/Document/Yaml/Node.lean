import Mustache.Document.Yaml.Token

/-!
The tree of a YAML document. A node that an alias repeats is repeated in the tree. The tokens are
read by the grammar of the format: a missing node is an empty plain text.
-/

namespace Mustache.Document.Yaml

set_option autoImplicit false

inductive Node where
  | scalar (plain : Bool) (content : String)
  | sequence (items : List Node)
  | mapping (entries : List (Node × Node))
  /-- A node that says itself of which type it is. -/
  | tagged (tag : String) (node : Node)

instance : Inhabited Node := ⟨.scalar true ""⟩

def Node.empty : Node := .scalar true ""

/-- The tokens still to be read, the nodes that have a name, and how many sequences and mappings
the next node lies in. -/
structure Reader where
  tokens : List Token
  anchors : List (String × Node)
  depth : Nat

abbrev Read := StateT Reader (Except DocumentFault)

namespace Read

def reject {α : Type} (message : String) : Read α := throw (.structural message)

def peek : Read Token := do
  match (← get).tokens with
  | [] => return .finish
  | .refused fault :: _ => throw fault
  | token :: _ => return token

def advance : Read Unit := modify fun reader => { reader with tokens := reader.tokens.tail }

def takes (token : Token) : Read Bool := do
  if (← peek) = token then
    advance
    return true
  else return false

def nodeUnless (stops : List Token) (node : Read Node) : Read Node := do
  if stops.contains (← peek) then return .empty else node

/-- The anchor and the tag in front of a node, in either order. -/
def properties : (fuel : Nat) → Option String → Option String →
    Read (Option String × Option String)
  | 0, anchor, tag => return (anchor, tag)
  | fuel + 1, anchor, tag => do
      match ← peek with
      | .anchor name =>
          if anchor.isSome then return (anchor, tag)
          else
            advance
            properties fuel (some name) tag
      | .tag name =>
          if tag.isSome then return (anchor, tag)
          else
            advance
            properties fuel anchor (some name)
      | _ => return (anchor, tag)

def remember (anchor : Option String) (node : Node) : Read Unit :=
  match anchor with
  | none => return
  | some name => do
      if ((← get).anchors.lookup name).isSome then
        throw (.composing ("found duplicate anchor '" ++ name ++ "'"))
      else modify fun reader => { reader with anchors := (name, node) :: reader.anchors }

def remembered (name : String) : Read Node := do
  match (← get).anchors.lookup name with
  | some node => return node
  | none => throw (.composing ("found undefined alias '" ++ name ++ "'"))

def depthLimit : Nat := 480

def inside {α : Type} (parts : Read α) : Read α := do
  let depth := (← get).depth
  if depth ≥ depthLimit then throw .tooDeep
  else
    advance
    modify fun reader => { reader with depth := depth + 1 }
    let result ← parts
    modify fun reader => { reader with depth := depth }
    return result

def missing (mayMiss : Bool) : Read Node :=
  if mayMiss then return .empty else reject "expected the node content"

mutual
/-- Reads a node. Only `inBlock` may it be a block of its own, and only where `asItems` holds may
its items stand at the column of the key before them. -/
def node : (fuel : Nat) → (inBlock asItems : Bool) → Read Node
  | 0, _, _ => reject "document is too deep"
  | fuel + 1, inBlock, asItems => do
      if let .alias name ← peek then
        advance
        remembered name
      else
        let (anchor, tag) ← properties 2 none none
        let content ← contents fuel inBlock asItems (anchor.isSome || tag.isSome)
        let result := match tag with
          | none => content
          | some tag => .tagged tag content
        remember anchor result
        return result
  termination_by structural fuel => fuel
def contents : (fuel : Nat) → (inBlock asItems mayMiss : Bool) → Read Node
  | 0, _, _, _ => reject "document is too deep"
  | fuel + 1, inBlock, asItems, mayMiss => do
      let token ← peek
      if asItems && token = .item then return .sequence (← looseItems fuel)
      else
        match token with
        | .scalar plain content =>
            advance
            return .scalar plain content
        | .flowSequenceStart => return .sequence (← inside (flowItems fuel true))
        | .flowMappingStart => return .mapping (← inside (flowEntries fuel true))
        | .sequenceStart =>
            if inBlock then return .sequence (← inside (blockItems fuel)) else missing mayMiss
        | .mappingStart =>
            if inBlock then return .mapping (← inside (blockEntries fuel)) else missing mayMiss
        | _ => missing mayMiss
  termination_by structural fuel => fuel
def blockItems : (fuel : Nat) → Read (List Node)
  | 0 => reject "document is too deep"
  | fuel + 1 => do
      if ← takes .item then
        let item ← nodeUnless [.item, .blockEnd] (node fuel true false)
        return item :: (← blockItems fuel)
      else if ← takes .blockEnd then return []
      else reject "expected <block end>"
  termination_by structural fuel => fuel
def looseItems : (fuel : Nat) → Read (List Node)
  | 0 => reject "document is too deep"
  | fuel + 1 => do
      if ← takes .item then
        let item ← nodeUnless [.item, .key, .value, .blockEnd] (node fuel true false)
        return item :: (← looseItems fuel)
      else return []
  termination_by structural fuel => fuel
def blockEntries : (fuel : Nat) → Read (List (Node × Node))
  | 0 => reject "document is too deep"
  | fuel + 1 => do
      if ← takes .key then
        let key ← nodeUnless [.key, .value, .blockEnd] (node fuel true true)
        let value ← if ← takes .value then
            nodeUnless [.key, .value, .blockEnd] (node fuel true true)
          else pure .empty
        return (key, value) :: (← blockEntries fuel)
      else if ← takes .blockEnd then return []
      else reject "expected <block end>"
  termination_by structural fuel => fuel
/-- The items of a sequence in brackets. An entry of a mapping among them is a mapping of its
own. -/
def flowItems : (fuel : Nat) → (first : Bool) → Read (List Node)
  | 0, _ => reject "document is too deep"
  | fuel + 1, first => do
      if ← takes .flowSequenceEnd then return []
      else
        if !first && !(← takes .comma) then reject "expected ',' or ']'"
        else if ← takes .key then
          let key ← nodeUnless [.value, .comma, .flowSequenceEnd] (node fuel false false)
          let value ← if ← takes .value then
              nodeUnless [.comma, .flowSequenceEnd] (node fuel false false)
            else pure .empty
          return .mapping [(key, value)] :: (← flowItems fuel false)
        else if ← takes .flowSequenceEnd then return []
        else
          let item ← node fuel false false
          return item :: (← flowItems fuel false)
  termination_by structural fuel => fuel
def flowEntries : (fuel : Nat) → (first : Bool) → Read (List (Node × Node))
  | 0, _ => reject "document is too deep"
  | fuel + 1, first => do
      if ← takes .flowMappingEnd then return []
      else
        if !first && !(← takes .comma) then reject "expected ',' or '\x7d'"
        else if ← takes .key then
          let key ← nodeUnless [.value, .comma, .flowMappingEnd] (node fuel false false)
          let value ← if ← takes .value then
              nodeUnless [.comma, .flowMappingEnd] (node fuel false false)
            else pure .empty
          return (key, value) :: (← flowEntries fuel false)
        else if ← takes .flowMappingEnd then return []
        else
          let key ← node fuel false false
          return (key, .empty) :: (← flowEntries fuel false)
  termination_by structural fuel => fuel
end

def skipDirectives : (fuel : Nat) → Read Unit
  | 0 => return
  | fuel + 1 => do if ← takes .directive then skipDirectives fuel

def skipDocumentEnds : (fuel : Nat) → Read Unit
  | 0 => return
  | fuel + 1 => do if ← takes .documentEnd then skipDocumentEnds fuel

/-- The marks in front of a document that is not the first or has directives. -/
def explicitStart (fuel : Nat) : Read Unit := do
  skipDirectives fuel
  if !(← takes .documentStart) then reject "expected '<document start>'"

def onlyDocument (fuel : Nat) : Read (Option Node) := do
  let first ← peek
  if first = .finish then return none
  else
    let explicit := first = .directive || first = .documentStart
    if explicit then explicitStart fuel
    let stops := [.directive, .documentStart, .documentEnd, .finish]
    let result ← if explicit then nodeUnless stops (node fuel true false) else node fuel true false
    skipDocumentEnds fuel
    if (← peek) = .finish then return some result
    else
      explicitStart fuel
      throw (.composing "expected a single document in the stream")

end Read

def Node.ofTokens? (tokens : List Token) : Except DocumentFault (Option Node) :=
  let fuel := 3 * tokens.length + 3
  (·.1) <$> (Read.onlyDocument fuel).run ⟨tokens, [], 0⟩

end Mustache.Document.Yaml
