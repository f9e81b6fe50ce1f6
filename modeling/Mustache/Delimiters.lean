import Mustache.Fault
import Mustache.Text.Blank
import Mustache.Text.Quoted

/-!
The markers that open and close a tag, of one or two characters each. A directive names both,
separated by blanks, and replaces whatever markers held before it.
-/

namespace Mustache

set_option autoImplicit false

structure Marker where
  first : Char
  second : Option Char
  deriving DecidableEq, Repr

def Marker.chars (marker : Marker) : List Char := marker.first :: marker.second.toList

def Marker.ofWord? : List Char → Option Marker
  | [first] => some ⟨first, none⟩
  | [first, second] => some ⟨first, some second⟩
  | _ => none

structure Delimiters where
  opening : Marker
  closing : Marker
  deriving DecidableEq, Repr

namespace Delimiters

def standard : Delimiters := ⟨⟨'{', some '{'⟩, ⟨'}', some '}'⟩⟩

def isStandard (delimiters : Delimiters) : Bool := delimiters == standard

def ofDirective? (directive : List Char) : Option Delimiters :=
  match Text.words directive with
  | [opening, closing] => do
      let opening ← Marker.ofWord? opening
      let closing ← Marker.ofWord? closing
      some ⟨opening, closing⟩
  | _ => none

/-- Applies a directive, the text between the equals signs of its tag. A refused one changes
nothing. -/
def update (_ : Delimiters) (directive : String) (line : Option Int) :
    Except ParseError Delimiters :=
  match ofDirective? directive.toList with
  | some delimiters => .ok delimiters
  | none => .error ⟨.badDirective directive, line⟩

def describe (delimiters : Delimiters) : String :=
  "Delimiters(" ++ Text.quote (String.ofList delimiters.opening.chars) ++ ", " ++
    Text.quote (String.ofList delimiters.closing.chars) ++ ")"

end Delimiters

end Mustache
