import Mustache.Context
import Mustache.Template
import Mustache.Text.Quoted
import Mustache.Value.Written

/-!
Rendering writes the segments of a template for a scope. What has been written when a fault ends a
rendering stays written. Partials see the data of the frame they stand in, and nothing around it.
-/

namespace Mustache

set_option autoImplicit false

/-- Rendering changes the store and appends to the text written so far. -/
abbrev Render := Run String

def write (text : String) : Render Unit :=
  modify fun (store, written) => (store, written ++ text)

def liftText : (Store → Except Fault String) → Render String := fun text => do
  match text (← get).1 with
  | .ok text => return text
  | .error fault => throw fault

structure Setting where
  options : Options
  registry : Registry

namespace Setting

def resolve (setting : Setting) (scope : Scope) (name : String) : Render Value :=
  liftAccess (scope.resolve setting.options.standardsMode name)

def plainText : Value → Except Fault String
  | .text content => .ok content
  | _ => .error (.value .wrongType)

/-- Replaces a character in a value. Octets and dates have a replacement of their own that texts do
not fit, and an object of host code may have any; what has none at all lacks a member. -/
def replaceIn (value : Value) (target : Char) (substitute : String) : Access Value :=
  match value with
  | .text content =>
      let replaced := Text.replaceAll target substitute.toList content.toList
      return .text (String.ofList replaced)
  | .object host => host.invoke "replace" 2
  | .octets _ | .buffer _ _ | .date _ _ _ => throw (.value .wrongType)
  | _ => throw (.value .noSuchMember)

def escapeValue : Value → Access Value
  | .text content => return .text (Text.escape content)
  | value => Text.entities.foldlM (fun value entity => replaceIn value entity.1 entity.2) value

/-- What is to be written, with the way in which its text replaces characters if that is its own. -/
structure Shown where
  value : Value
  replacing : Option (Routine Value)

/-- A text with a way of its own is asked for the first character; what it gives is asked for the
others. -/
def Shown.escaped (shown : Shown) : Access Value :=
  match shown.replacing, Text.entities with
  | some replace, _ :: entities => do
      let first ← replace.call true 2
      entities.foldlM (fun value entity => replaceIn value entity.1 entity.2) first
  | _, _ => escapeValue shown.value

def shown (setting : Setting) (name : String) (line : Nat) (value : Value) :
    Render (Option Shown) :=
  let substitute := setting.options.defaultValue
  match value, substitute with
  | .missing, .null => do
      if ← liftAccess setting.options.strictVariables.truth then
        throw (.missingVariable name line)
      else return none
  | .null, .null => return none
  | .missing, _ | .null, _ => return some ⟨substitute, none⟩
  | value, _ => do
      let text ← liftText value.written
      return some ⟨.text text, value.replacing?⟩

def writeShown (escaped : Value) (shown : Shown) : Render Unit := do
  let written ←
    if ← liftAccess escaped.truth then liftAccess shown.escaped else pure shown.value
  write (← (plainText written : Except Fault String))

end Setting

mutual
/-- Sections of sequences are rendered once for each element, of a true value in the scope they
stand in, and of any other value that is there in a scope of their own. -/
def renderSegment (setting : Setting) (scope : Scope) : Segment → Render Unit
  | .text content => write content
  | .interpolation name escaped line => do
      let value ← setting.resolve scope name
      match ← setting.shown name line value with
      | none => return
      | some text => Setting.writeShown escaped text
  | .block false name _ body => do
      let value ← setting.resolve scope name
      match value.kind setting.registry with
      | .missing | .null => return
      | .sequence =>
          value.visit setting.registry fun (placed : Placed) =>
            renderSegments setting (scope.nest (.ofPlaced placed)) body
      | .boolean =>
          match value with
          | .bool true => renderSegments setting scope body
          | _ => return
      | _ => renderSegments setting (scope.nest (.plain value)) body
  | .block true name _ body => do
      let value ← setting.resolve scope name
      if ← liftAccess (value.isFalsy setting.registry) then renderSegments setting scope body
      else return
  | .included _ config body =>
      renderSegments ⟨config.options, setting.registry⟩ (.root scope.frame.data) body
  termination_by structural segment => segment
def renderSegments (setting : Setting) (scope : Scope) : List Segment → Render Unit
  | [] => pure ()
  | segment :: rest => do
      renderSegment setting scope segment
      renderSegments setting scope rest
  termination_by structural segments => segments
end

structure Rendering where
  written : String
  failure : Option Fault

def Template.renderTo (template : Template) (registry : Registry) (data : Value)
    (written : String) (store : Store) : Rendering × Store :=
  let action := renderSegments ⟨template.config.options, registry⟩ (.root data) template.segments
  match action.run (store, written) with
  | (.ok _, (store, written)) => (⟨written, none⟩, store)
  | (.error fault, (store, written)) => (⟨written, some fault⟩, store)

def Template.render (template : Template) (registry : Registry) (data : Value) (store : Store) :
    Rendering × Store :=
  template.renderTo registry data "" store

end Mustache
