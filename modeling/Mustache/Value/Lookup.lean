import Mustache.Value.Member

/-!
Looking up one name in one value. Mappings are searched by key and by nothing else. Of all other
values a name that is empty or begins with an underscore finds nothing, and nothing is evaluated
for it. A routine that is found is called if it can be called without arguments.
-/

namespace Mustache

set_option autoImplicit false

inductive Attribute where
  | absent
  | value (value : Value)
  /-- A routine, by itself or bound to what it is reached through. -/
  | routine (routine : Routine Value) (bound : Bool)

def Attribute.ofValue : Value → Attribute
  | .routine callee => .routine callee false
  | found => .value found

namespace Routine

/-- The parameters that are left once the first one has taken the receiver, if there is one that
can. -/
def bindReceiver? : List Param → Option (List Param)
  | .anyPositional :: rest => some (.anyPositional :: rest)
  | .required :: rest | .optional :: rest | .positional :: rest => some rest
  | _ => none

/-- The parameters that a call has to give something to, once the receiver has been given to the
first of them, if there is a receiver. -/
def remaining? (params : List Param) : (bound : Bool) → Option (List Param)
  | false => some params
  | true => bindReceiver? params

variable {α : Type}

def signature (routine : Routine α) : List Param := routine.claimed.getD routine.params

/-- Whether a routine seems to need no arguments. Of one that has no place for its receiver nothing
can be said. -/
def takesNoArguments (routine : Routine α) (bound : Bool) : Bool :=
  match remaining? routine.signature bound with
  | some left => !left.any Param.needsArgument
  | none => false

/-- Whether arguments that are given by their places, so many of them, go to one parameter each and
leave none without what it needs. -/
def accepts : List Param → (count : Nat) → Bool
  | [], count => count == 0
  | .anyPositional :: rest, _ => accepts rest 0
  | param :: rest, 0 => !param.needsArgument && accepts rest 0
  | param :: rest, count + 1 => param.takesPlace && accepts rest count

def run (routine : Routine Value) : Access Value :=
  match routine.outcome with
  | .returns result => pure result
  | .raises fault => throw fault
  | .counts => do
      let count := (← get).counter routine.cell + 1
      modify fun store => store.setCounter routine.cell count
      return .int count

def call (routine : Routine Value) (bound : Bool) (count : Nat) : Access Value :=
  if accepts routine.params (bound.toNat + count) then routine.run else throw (.value .wrongType)

end Routine

def Attribute.used : Attribute → Access Value
  | .absent => pure .missing
  | .value found => pure found
  | .routine callee bound =>
      if callee.takesNoArguments bound then callee.call bound 0 else pure .missing

def Fault.isAttributeFault : Fault → Bool
  | .raised .attribute _ => true
  | .value .noSuchMember => true
  | _ => false

namespace HostObject

def fallbackAttribute (host : HostObject Value) (name : String) : Attribute :=
  match host.fallback.lookup name with
  | some value => .ofValue value
  | none => .absent

/-- Evaluates a property. One that reports a missing attribute is as good as absent. -/
def property (host : HostObject Value) (name : String) (getter : Routine Value) :
    Access Attribute :=
  tryCatch (do return .ofValue (← getter.call true 0)) fun fault =>
    if fault.isAttributeFault then pure (host.fallbackAttribute name) else throw fault

/-- Properties come before the attributes of the object itself, and these before all else that its
class has. -/
def find (host : HostObject Value) (name : String) : Access Attribute :=
  match host.members.lookup name with
  | some (.property getter) => host.property name getter
  | shared =>
      match host.own.lookup name with
      | some value => pure (.ofValue value)
      | none =>
          match shared with
          | some (.plain (.routine routine)) => pure (.routine routine true)
          | some (.plain value) => pure (.value value)
          | some (.static routine) => pure (.routine routine false)
          | some (.classLevel routine) => pure (.routine routine true)
          | _ => pure (host.fallbackAttribute name)

/-- Calls what an object has under a name, with so many arguments. -/
def invoke (host : HostObject Value) (name : String) (count : Nat) : Access Value := do
  match ← host.find name with
  | .absent => throw (.value .noSuchMember)
  | .value _ => throw (.value .wrongType)
  | .routine callee bound => callee.call bound count

end HostObject

def isPublicName (name : String) : Bool :=
  match name.toList with
  | [] => false
  | c :: _ => c != '_'

def findEntry (entries : List (Value × Value)) (name : String) : Value :=
  match entries with
  | [] => .missing
  | (.text key, value) :: rest => if key = name then value else findEntry rest name
  | _ :: rest => findEntry rest name

/-- Looks up a name in a value, where it is known what values of the built-in types have. -/
def Value.lookupIn (members : Value → String → Option Builtin) (value : Value) (name : String) :
    Access Value :=
  match value with
  | .missing | .null => pure .missing
  | .mapping _ entries => pure (findEntry entries name)
  | value =>
      if isPublicName name then
        match value with
        | .object host => host.find name >>= Attribute.used
        | value => ((members value name).map Builtin.used).getD (pure .missing)
      else pure .missing

def Value.lookup (value : Value) (name : String) : Access Value :=
  value.lookupIn Value.member? name

end Mustache
