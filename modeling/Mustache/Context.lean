import Mustache.Text.Blank
import Mustache.Value.Iteration
import Mustache.Value.Lookup
import Mustache.Value.Truth

/-!
Names in a context. A scope is the frame of the innermost section and the frames around it, from
the inside out. Names that speak about the frame itself come first; a plain name is looked for in
one frame after the other until it is found; of a dotted name only the head is, and every further
part is looked up in what the part before it gave.
-/

namespace Mustache

set_option autoImplicit false

/-- The data of a section and its place in an iteration; outside of one the index is zero. -/
structure Frame where
  data : Value
  index : Int
  position : Position
  last : Bool

def Frame.plain (data : Value) : Frame := ⟨data, 0, .other, false⟩

def Frame.ofPlaced (placed : Placed) : Frame :=
  ⟨placed.element, placed.index, placed.position, placed.last⟩

structure Scope where
  frame : Frame
  enclosing : List Frame

namespace Scope

def root (data : Value) : Scope := ⟨.plain data, []⟩

def nest (scope : Scope) (frame : Frame) : Scope := ⟨frame, scope.frame :: scope.enclosing⟩

end Scope

/-- The first frame that has the name decides; a null that is found ends the search as well. In
standards mode, which is asked for only when a frame does not have the name, no further frame is
searched. -/
def lookupChain (standardsMode : Value) (name : String) : List Frame → Access Value
  | [] => pure .missing
  | frame :: enclosing => do
      let value ← frame.data.lookup name
      if !value.isMissing then return value
      else if ← standardsMode.truth then return .missing
      else lookupChain standardsMode name enclosing

def Scope.find (scope : Scope) (standardsMode : Value) (name : String) : Access Value :=
  lookupChain standardsMode name (scope.frame :: scope.enclosing)

def lookupPath (value : Value) : List String → Access Value
  | [] => pure value
  | part :: rest =>
      if value.isMissing then pure value
      else do
        let inner ← value.lookup part
        lookupPath inner rest

/-- The pieces between the dots of a name, which may be empty. -/
def nameParts (name : String) : List String :=
  (Text.pieces (· = '.') name.toList).map String.ofList

def Scope.resolve (scope : Scope) (standardsMode : Value) (name : String) : Access Value :=
  if name = "." || name = "this" then pure scope.frame.data
  else if name = "-first" then pure (.bool (scope.frame.position == .first))
  else if name = "-last" then pure (.bool scope.frame.last)
  else if name = "-index" then pure (.int scope.frame.index)
  else
    match nameParts name with
    | [] => pure .missing
    | head :: rest => do
        let value ← scope.find standardsMode head
        lookupPath value rest

end Mustache
