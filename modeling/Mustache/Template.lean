import Mustache.Segment
import Mustache.Token

/-!
Compiling a template: the tokens of its source are assembled into segments, and each partial is
loaded and compiled where its tag stands. A partial is compiled like any source, except that the
names of the partials around it may not be included again.

The journal records what happens on the way: which partials are asked for, which streams are
opened and closed. It is complete whether or not compiling succeeds.
-/

namespace Mustache

set_option autoImplicit false

structure Template where
  segments : List Segment
  config : Config

/-- Requests are numbered from zero in the order they are made. -/
inductive Event where
  | asked (name : String)
  | noted (message : String)
  | opened (request : Nat)
  | closed (request : Nat)
  | compiling (name : String)
  | compiled (segments : Nat)
  deriving DecidableEq, Repr

abbrev Journal := List Event

def Journal.asked (journal : Journal) : List String :=
  journal.filterMap fun event => match event with
    | .asked name => some name
    | _ => none

abbrev Compile := ExceptT Fault (StateM Journal)

def record (event : Event) : Compile Unit := modify (· ++ [event])

/-- Runs an action and closes the stream that it has read from, whether it succeeds or not. If
closing fails, nothing else is told of. -/
def thenClose {α : Type} (action : Compile α) (request : Nat) (failure : Option Fault) :
    Compile α :=
  ExceptT.mk fun journal =>
    let (result, journal) := action.run journal
    (failure.elim result .error, journal ++ [.closed request])

structure OpenBlock where
  name : String
  line : Nat
  inverted : Bool
  outer : List Segment

structure Assembly where
  current : List Segment
  blocks : List OpenBlock

namespace Assembly

def empty : Assembly := ⟨[], []⟩

def add (assembly : Assembly) (segment : Segment) : Assembly :=
  { assembly with current := segment :: assembly.current }

def openBlock (assembly : Assembly) (inverted : Bool) (name : String) (line : Nat) : Assembly :=
  ⟨[], ⟨name, line, inverted, assembly.current⟩ :: assembly.blocks⟩

def closeBlock (assembly : Assembly) (name : String) (line : Nat) : Except ParseError Assembly :=
  match assembly.blocks with
  | [] => .error ⟨.closeWithoutOpen name, some line⟩
  | block :: blocks =>
      if block.name = name then
        .ok ⟨.block block.inverted name block.line assembly.current.reverse :: block.outer, blocks⟩
      else .error ⟨.closeMismatch name block.name, some line⟩

def finish (assembly : Assembly) : Except ParseError (List Segment) :=
  match assembly.blocks with
  | [] => .ok assembly.current.reverse
  | block :: _ => .error ⟨.neverClosed block.inverted block.name, some block.line⟩

end Assembly

def liftParse {α : Type} : Except ParseError α → Compile α
  | .ok value => pure value
  | .error error => throw (.parse error)

/-- Takes one more token into an assembly; `includePartial` yields the segments of a partial. -/
def placeToken (config : Config) (includePartial : String → Compile (List Segment))
    (assembly : Assembly) : Token → Compile Assembly
  | .text content => pure (assembly.add (.text content))
  | .tag tag line =>
      match tag with
      | .interpolation name raw =>
          let escaped := if raw then .bool false else config.options.escapeHtml
          pure (assembly.add (.interpolation name escaped line))
      | .opening inverted name => pure (assembly.openBlock inverted name line)
      | .closing name => liftParse (assembly.closeBlock name line)
      | .inclusion name => do
          let body ← includePartial name
          return assembly.add (.included name config body)
      | .comment | .directive _ => pure assembly

def assemble (config : Config) (includePartial : String → Compile (List Segment)) :
    Assembly → List Token → Compile Assembly
  | assembly, [] => pure assembly
  | assembly, token :: tokens => do
      let next ← placeToken config includePartial assembly token
      assemble config includePartial next tokens

def request (loader : Loader) (name : String) : Compile Source := do
  let journal ← get
  let reply := loader.reply journal.asked name
  record (.asked name)
  reply.notes.forM fun note => record (.noted note)
  match reply.result with
  | .ok source => return source
  | .error fault => throw (if fault.isTemplateFault then fault else .unloadable name fault)

def includeWith (loader : Loader) (compile : List String → Source → Compile (List Segment))
    (chain : List String) (name : String) : Compile (List Segment) := do
  let inner := chain ++ [name]
  if chain.contains name then throw (.load (.circular inner) (some name))
  else
    let index := (← get).asked.length
    let source ← request loader name
    match source with
    | .text _ =>
        record (.compiling name)
        compile inner source
    | .stream _ _ failure =>
        record (.opened index)
        record (.compiling name)
        thenClose (compile inner source) index failure

/-- Compiles a source; `fuel` is how many levels of partials, this one included, may be nested. -/
def compileLevels (config : Config) : (fuel : Nat) → (chain : List String) → Source →
    Compile (List Segment)
  | 0, _, _ => throw (.load .tooDeep none)
  | fuel + 1, chain, source => do
      let scan := source.scan
      let includePartial := includeWith config.loader (compileLevels config fuel) chain
      let assembly ← assemble config includePartial .empty scan.tokens
      match scan.failure with
      | some fault => throw fault
      | none =>
          let segments ← liftParse assembly.finish
          record (.compiled segments.length)
          return segments

def Config.compileInside (config : Config) (chain : List String) (source : Source) :
    Compile Template := do
  let segments ← compileLevels config (config.loader.depth + 1) chain source
  return ⟨segments, config⟩

def Config.compile (config : Config) (source : Source) : Compile Template :=
  config.compileInside [] source

def Config.runCompile (config : Config) (chain : List String) (source : Source) :
    Except Fault Template × Journal :=
  (config.compileInside chain source).run []

def Journal.loads (journal : Journal) : List (String × Option Bool) :=
  journal.asked.zipIdx.map fun (name, index) =>
    (name, if journal.contains (.opened index) then some (journal.contains (.closed index))
      else none)

end Mustache
