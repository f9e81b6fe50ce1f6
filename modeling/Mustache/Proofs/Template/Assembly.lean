import Mustache.Proofs.Action
import Mustache.Template

/-!
Assembling without a journal. What a token does to an assembly depends on the loader only through
the segments of partials; given those, assembling is a plain function. An action that comes to one
and the same result whatever was recorded before it yields that result.
-/

namespace Mustache

set_option autoImplicit false

def Yields {α : Type} (action : Compile α) (result : Except Fault α) : Prop :=
  ∀ journal, (action.run journal).1 = result

namespace Yields

variable {α β : Type}

theorem of_pure (value : α) : Yields (pure value) (.ok value) := fun _ => rfl

theorem of_throw (fault : Fault) : Yields (throw fault : Compile α) (.error fault) := fun _ => rfl

theorem of_bind {action : Compile α} {next : α → Compile β} {result : Except Fault α}
    {after : α → Except Fault β} (first : Yields action result)
    (second : ∀ value, result = .ok value → Yields (next value) (after value)) :
    Yields (action >>= next) (result >>= after) := by
  intro journal
  have firstly := first journal
  rw [Action.run_bind]
  rcases run : action.run journal with ⟨outcome, later⟩
  rw [run] at firstly
  subst firstly
  cases outcome with
  | error fault => rfl
  | ok value => exact second value rfl later

theorem of_record {next : Unit → Compile β} {result : Except Fault β} (event : Event)
    (rest : Yields (next ()) result) : Yields (record event >>= next) result :=
  fun journal => rest (journal ++ [event])

theorem of_lift_parse (result : Except ParseError α) :
    Yields (liftParse result) (result.mapError .parse) := by
  cases result with
  | ok value => exact of_pure value
  | error error => exact of_throw _

end Yields

namespace Assembly

/-- Takes one more token into an assembly, given the segments of each partial. -/
def place (config : Config) (partials : String → Except Fault (List Segment))
    (assembly : Assembly) : Token → Except Fault Assembly
  | .text content => .ok (assembly.add (.text content))
  | .tag tag line =>
      match tag with
      | .interpolation name raw =>
          .ok (assembly.add (.interpolation name (if raw then .bool false else config.options.escapeHtml) line))
      | .opening inverted name => .ok (assembly.openBlock inverted name line)
      | .closing name => (assembly.closeBlock name line).mapError .parse
      | .inclusion name => do
          let body ← partials name
          return assembly.add (.included name config body)
      | .comment | .directive _ => .ok assembly

def placeAll (config : Config) (partials : String → Except Fault (List Segment)) :
    Assembly → List Token → Except Fault Assembly :=
  List.foldlM (place config partials)

end Assembly

theorem place_all_cons {config : Config} {partials : String → Except Fault (List Segment)}
    (assembly : Assembly) (token : Token) (tokens : List Token) :
    assembly.placeAll config partials (token :: tokens) =
      assembly.place config partials token >>=
        (·.placeAll config partials tokens) := List.foldlM_cons

theorem place_all_append {config : Config} {partials : String → Except Fault (List Segment)}
    (assembly : Assembly) (tokens rest : List Token) :
    assembly.placeAll config partials (tokens ++ rest) =
      assembly.placeAll config partials tokens >>=
        (·.placeAll config partials rest) := List.foldlM_append

/-- A closing tag is taken only into the section that it names, and that section is then a segment
of the level around it. -/
theorem Assembly.place_closing_iff {config : Config}
    {partials : String → Except Fault (List Segment)} {assembly next : Assembly} {name : String}
    {line : Nat} :
    assembly.place config partials (.tag (.closing name) line) = .ok next ↔
      ∃ block blocks, assembly.blocks = block :: blocks ∧ block.name = name ∧
        next = ⟨.block block.inverted name block.line assembly.current.reverse :: block.outer,
          blocks⟩ := by
  simp only [place, closeBlock]
  constructor
  · intro placed
    cases around : assembly.blocks with
    | nil =>
        rw [around] at placed
        cases placed
    | cons block blocks =>
        simp only [around] at placed
        split at placed
        · next same =>
            cases placed
            exact ⟨block, blocks, rfl, same, rfl⟩
        · cases placed
  · rintro ⟨block, blocks, around, rfl, rfl⟩
    simp only [around, if_true]
    rfl

theorem Assembly.finish_ok_iff {assembly : Assembly} {segments : List Segment} :
    assembly.finish = .ok segments ↔
      assembly.blocks = [] ∧ segments = assembly.current.reverse := by
  unfold finish
  cases assembly.blocks with
  | nil => simp [eq_comm]
  | cons block blocks => simp

/-- Tokens can be assembled in two parts. -/
theorem assemble_bind {config : Config} {includePartial : String → Compile (List Segment)}
    (assembly : Assembly) (tokens rest : List Token) :
    assemble config includePartial assembly (tokens ++ rest) =
      assemble config includePartial assembly tokens >>=
        (assemble config includePartial · rest) := by
  induction tokens generalizing assembly with
  | nil => rfl
  | cons token tokens induction =>
      rw [List.cons_append, assemble, assemble, bind_assoc]
      exact congrArg _ (funext fun next => induction next)

def Assembly.Each (holds : Segment → Prop) (assembly : Assembly) : Prop :=
  (∀ segment ∈ assembly.current, holds segment) ∧
    ∀ block ∈ assembly.blocks, ∀ segment ∈ block.outer, holds segment

namespace Assembly.Each

variable {holds : Segment → Prop} {assembly : Assembly}

theorem empty : Assembly.empty.Each holds := ⟨nofun, nofun⟩

theorem add (each : assembly.Each holds) {segment : Segment} (fits : holds segment) :
    (assembly.add segment).Each holds :=
  ⟨List.forall_mem_cons.mpr ⟨fits, each.1⟩, each.2⟩

theorem openBlock (each : assembly.Each holds) (inverted : Bool) (name : String) (line : Nat) :
    (assembly.openBlock inverted name line).Each holds :=
  ⟨nofun, List.forall_mem_cons.mpr ⟨each.1, each.2⟩⟩

theorem close (each : assembly.Each holds)
    (inherits : ∀ inverted name line body, (∀ segment ∈ body, holds segment) →
      holds (.block inverted name line body))
    {config : Config} {partials : String → Except Fault (List Segment)} {name : String}
    {line : Nat} {next : Assembly}
    (closed : assembly.place config partials (.tag (.closing name) line) = .ok next) :
    next.Each holds := by
  obtain ⟨block, blocks, around, _, rfl⟩ := place_closing_iff.mp closed
  have outer : ∀ other ∈ block :: blocks, ∀ segment ∈ other.outer, holds segment :=
    around ▸ each.2
  obtain ⟨here, others⟩ := List.forall_mem_cons.mp outer
  have body : ∀ segment ∈ assembly.current.reverse, holds segment := by
    intro segment member
    exact each.1 segment (List.mem_reverse.mp member)
  exact ⟨List.forall_mem_cons.mpr ⟨inherits _ _ _ _ body, here⟩, others⟩

theorem finish (each : assembly.Each holds) {segments : List Segment}
    (finished : assembly.finish = .ok segments) : ∀ segment ∈ segments, holds segment := by
  obtain ⟨_, rfl⟩ := finish_ok_iff.mp finished
  intro segment member
  exact each.1 segment (List.mem_reverse.mp member)

end Assembly.Each

def Scan.segments (config : Config) (partials : String → Except Fault (List Segment))
    (scan : Scan) : Except Fault (List Segment) := do
  let assembly ← Assembly.empty.placeAll config partials scan.tokens
  match scan.failure with
  | some fault => .error fault
  | none => assembly.finish.mapError .parse

theorem segments_ok_iff {config : Config} {partials : String → Except Fault (List Segment)}
    {scan : Scan} {segments : List Segment} :
    scan.segments config partials = .ok segments ↔
      scan.failure = none ∧ ∃ assembly,
        Assembly.empty.placeAll config partials scan.tokens = .ok assembly ∧
          assembly.finish = .ok segments := by
  have parsed (assembly : Assembly) :
      assembly.finish.mapError Fault.parse = .ok segments ↔ assembly.finish = .ok segments := by
    cases assembly.finish with
    | error error => exact ⟨nofun, nofun⟩
    | ok result => exact ⟨fun same => by cases same; rfl, fun same => by cases same; rfl⟩
  constructor
  · intro made
    obtain ⟨assembly, placed, ends⟩ := except_of_bind_ok made
    cases failed : scan.failure with
    | some fault =>
        rw [failed] at ends
        cases ends
    | none =>
        rw [failed] at ends
        exact ⟨rfl, assembly, placed, (parsed assembly).mp ends⟩
  · rintro ⟨complete, assembly, placed, finished⟩
    unfold Scan.segments
    rw [placed, complete]
    exact (parsed assembly).mpr finished

def Scan.compile (config : Config) (includePartial : String → Compile (List Segment))
    (scan : Scan) : Compile (List Segment) := do
  let assembly ← assemble config includePartial .empty scan.tokens
  match scan.failure with
  | some fault => throw fault
  | none =>
      let segments ← liftParse assembly.finish
      record (.compiled segments.length)
      return segments

theorem compile_levels_succ (config : Config) (fuel : Nat) (chain : List String) (source : Source) :
    compileLevels config (fuel + 1) chain source =
      source.scan.compile config
        (includeWith config.loader (compileLevels config fuel) chain) := rfl

theorem run_compile_levels (config : Config) (chain : List String) (source : Source) :
    let run := (compileLevels config (config.loader.depth + 1) chain source).run []
    config.runCompile chain source =
      (run.1.map fun segments => ⟨segments, config⟩, run.2) := by
  unfold Config.runCompile Config.compileInside
  rw [Action.run_bind]
  rcases (compileLevels config (config.loader.depth + 1) chain source).run [] with
    ⟨outcome, journal⟩
  cases outcome <;> rfl

theorem run_compile_yields {config : Config} {chain : List String} {source : Source}
    {result : Except Fault (List Segment)}
    (yields : Yields (compileLevels config (config.loader.depth + 1) chain source) result) :
    (config.runCompile chain source).1 = result.map (Template.mk · config) := by
  rw [run_compile_levels, ← yields []]

section Yielding

variable {config : Config} {includePartial : String → Compile (List Segment)}
  {partials : String → Except Fault (List Segment)}

theorem place_yields (included : ∀ name, Yields (includePartial name) (partials name))
    (assembly : Assembly) (token : Token) :
    Yields (placeToken config includePartial assembly token)
      (assembly.place config partials token) := by
  cases token with
  | text content => exact .of_pure _
  | tag tag line =>
      cases tag with
      | interpolation name raw => exact .of_pure _
      | opening inverted name => exact .of_pure _
      | closing name => exact .of_lift_parse _
      | inclusion name => exact .of_bind (included name) fun _ _ => .of_pure _
      | comment => exact .of_pure _
      | directive delimiters => exact .of_pure _

theorem assemble_yields (included : ∀ name, Yields (includePartial name) (partials name))
    (assembly : Assembly) (tokens : List Token) :
    Yields (assemble config includePartial assembly tokens)
      (assembly.placeAll config partials tokens) := by
  induction tokens generalizing assembly with
  | nil => exact .of_pure _
  | cons token tokens induction =>
      exact .of_bind (place_yields included assembly token) fun next _ => induction next

theorem compile_yields (included : ∀ name, Yields (includePartial name) (partials name))
    (scan : Scan) :
    Yields (scan.compile config includePartial) (scan.segments config partials) := by
  apply Yields.of_bind (assemble_yields included .empty scan.tokens)
  intro assembly _
  cases scan.failure with
  | some fault => exact .of_throw fault
  | none =>
      cases assembly.finish with
      | error error => exact .of_throw _
      | ok segments => exact fun _ => rfl

end Yielding

end Mustache
