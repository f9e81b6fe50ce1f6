import Mustache.Proofs.Template.Nesting

/-!
Walks through trees, and through trees that are still being assembled. A token that asks for no
partial makes a walk longer by what it says, or it is refused where the open sections refuse it.
-/

namespace Mustache

set_option autoImplicit false

theorem Token.inclusion_some {token : Token} {name : String}
    (told : token.inclusion? = some name) : ∃ line, token = .tag (.inclusion name) line := by
  unfold Token.inclusion? at told
  split at told
  · cases told
    exact ⟨_, rfl⟩
  · cases told

/-- What the pieces of a source say, and the segments of a tree where a walk passes them. A section
is passed twice, at its start and at its end. -/
inductive Mark where
  | text (content : String)
  | interpolation (name : String) (escaped : Value) (line : Nat)
  | opening (inverted : Bool) (name : String) (line : Nat)
  | closing (name : String)
  | inclusion (name : String) (config : Config)

def Token.marks (config : Config) : Token → List Mark
  | .text content => [.text content]
  | .tag told line =>
      match told with
      | .interpolation name raw =>
          [.interpolation name (if raw then .bool false else config.options.escapeHtml) line]
      | .opening inverted name => [.opening inverted name line]
      | .closing name => [.closing name]
      | .inclusion name => [.inclusion name config]
      | .comment | .directive _ => []

namespace Segment

mutual
/-- A walk through a tree, which does not enter partials. -/
def marks : Segment → List Mark
  | .text content => [.text content]
  | .interpolation name escaped line => [.interpolation name escaped line]
  | .block inverted name line body =>
      .opening inverted name line :: (marksAll body ++ [.closing name])
  | .included name config _ => [.inclusion name config]
  termination_by structural segment => segment
def marksAll : List Segment → List Mark
  | [] => []
  | segment :: rest => marks segment ++ marksAll rest
  termination_by structural segments => segments
end

theorem marks_all_append (segments rest : List Segment) :
    marksAll (segments ++ rest) = marksAll segments ++ marksAll rest := by
  induction segments with
  | nil => rfl
  | cons segment segments induction => simp [marksAll, induction]

mutual
/-- The names of the partials in a tree, each before those inside of it. -/
def asks : Segment → List String
  | .text _ | .interpolation _ _ _ => []
  | .block _ _ _ body => asksAll body
  | .included name _ body => name :: asksAll body
  termination_by structural segment => segment
def asksAll : List Segment → List String
  | [] => []
  | segment :: rest => asks segment ++ asksAll rest
  termination_by structural segments => segments
end

theorem asks_all_append (segments rest : List Segment) :
    asksAll (segments ++ rest) = asksAll segments ++ asksAll rest := by
  induction segments with
  | nil => rfl
  | cons segment segments induction => simp [asksAll, induction]

end Segment

def OpenBlock.opener (block : OpenBlock) : Opener := ⟨block.inverted, block.name, block.line⟩

namespace Assembly

def openers (assembly : Assembly) : List Opener := assembly.blocks.map OpenBlock.opener

/-- What a walk has passed before it comes to the innermost level. -/
def marksAround : List OpenBlock → List Mark
  | [] => []
  | block :: blocks =>
      marksAround blocks ++ Segment.marksAll block.outer.reverse ++
        [.opening block.inverted block.name block.line]

def marks (assembly : Assembly) : List Mark :=
  marksAround assembly.blocks ++ Segment.marksAll assembly.current.reverse

theorem marks_add (assembly : Assembly) (segment : Segment) :
    (assembly.add segment).marks = assembly.marks ++ segment.marks := by
  simp [marks, add, Segment.marks_all_append, Segment.marksAll]

theorem marks_close {assembly : Assembly} {block : OpenBlock} {blocks : List OpenBlock}
    (around : assembly.blocks = block :: blocks) :
    marks ⟨.block block.inverted block.name block.line assembly.current.reverse :: block.outer,
        blocks⟩ =
      assembly.marks ++ [.closing block.name] := by
  simp [marks, around, marksAround, Segment.marks_all_append, Segment.marksAll, Segment.marks]

def asksAround : List OpenBlock → List String
  | [] => []
  | block :: blocks => asksAround blocks ++ Segment.asksAll block.outer.reverse

/-- The names of the partials that stand in the sections that are open. -/
def asks (assembly : Assembly) : List String :=
  asksAround assembly.blocks ++ Segment.asksAll assembly.current.reverse

theorem asks_add (assembly : Assembly) (segment : Segment) :
    (assembly.add segment).asks = assembly.asks ++ segment.asks := by
  simp [asks, add, Segment.asks_all_append, Segment.asksAll]

theorem asks_close {assembly : Assembly} {block : OpenBlock} {blocks : List OpenBlock}
    (around : assembly.blocks = block :: blocks) :
    asks ⟨.block block.inverted block.name block.line assembly.current.reverse :: block.outer,
        blocks⟩ = assembly.asks := by
  simp [asks, around, asksAround, Segment.asks_all_append, Segment.asksAll, Segment.asks]

/-- A closing tag is refused by an assembly just as by the sections that are open in it. -/
theorem close_cases (assembly : Assembly) (name : String) (line : Nat) :
    (∃ error, assembly.closeBlock name line = .error error ∧
        nest assembly.openers (.tag (.closing name) line) = .error error) ∨
      ∃ block blocks, assembly.blocks = block :: blocks ∧ block.name = name ∧
        assembly.closeBlock name line =
          .ok ⟨.block block.inverted name block.line assembly.current.reverse :: block.outer,
            blocks⟩ ∧
        nest assembly.openers (.tag (.closing name) line) =
          .ok (blocks.map OpenBlock.opener) := by
  unfold closeBlock openers
  cases assembly.blocks with
  | nil => exact .inl ⟨_, rfl, rfl⟩
  | cons block blocks =>
      by_cases same : block.name = name
      · exact .inr ⟨block, blocks, rfl, same, if_pos same, if_pos same⟩
      · exact .inl ⟨_, if_neg same, if_neg same⟩

theorem finish_nest_out (assembly : Assembly) :
    assembly.finish =
      (nestOut assembly.openers).map fun _ => assembly.current.reverse := by
  unfold finish openers
  cases assembly.blocks <;> rfl

end Assembly

section Place

variable {config : Config} {includePartial : String → Compile (List Segment)}

/-- Where no partial is asked for, it does not matter which ones there are. -/
theorem place_silent_run (partials : String → Except Fault (List Segment)) (assembly : Assembly)
    {token : Token} (silent : token.inclusion? = none) (journal : Journal) :
    (placeToken config includePartial assembly token).run journal =
      (assembly.place config partials token, journal) := by
  cases token with
  | text content => rfl
  | tag tag line =>
      cases tag with
      | closing name =>
          simp only [placeToken, Assembly.place]
          cases assembly.closeBlock name line <;> rfl
      | inclusion name => cases silent
      | interpolation | opening | comment | directive => rfl

/-- A token that asks for no partial is taken or refused without a trace in the journal. -/
theorem place_silent (assembly : Assembly) {token : Token} (silent : token.inclusion? = none)
    (journal : Journal) :
    let run := (placeToken config includePartial assembly token).run journal
    (∃ next, run = (.ok next, journal) ∧ nest assembly.openers token = .ok next.openers ∧
        next.marks = assembly.marks ++ token.marks config ∧ next.asks = assembly.asks) ∨
      ∃ error, run = (.error (.parse error), journal) ∧
        nest assembly.openers token = .error error := by
  have added (segment : Segment) (single : segment.asks = []) :
      (assembly.add segment).asks = assembly.asks := by
    rw [Assembly.asks_add, single, List.append_nil]
  cases token with
  | text content => exact .inl ⟨_, rfl, rfl, Assembly.marks_add assembly _, added _ rfl⟩
  | tag tag line =>
      cases tag with
      | interpolation name raw =>
          exact .inl ⟨_, rfl, rfl, Assembly.marks_add assembly _, added _ rfl⟩
      | opening inverted name =>
          refine .inl ⟨_, rfl, rfl, ?_, ?_⟩
          · simp [Assembly.marks, Assembly.openBlock, Assembly.marksAround, Segment.marksAll,
              Token.marks]
          · simp [Assembly.asks, Assembly.openBlock, Assembly.asksAround, Segment.asksAll]
      | closing name =>
          have placed : placeToken config includePartial assembly (.tag (.closing name) line) =
              liftParse (assembly.closeBlock name line) := rfl
          rw [placed]
          rcases assembly.close_cases name line with
            ⟨error, refused, nested⟩ | ⟨block, blocks, around, rfl, closed, nested⟩
          · rw [refused]
            exact .inr ⟨error, rfl, nested⟩
          · rw [closed]
            exact .inl ⟨_, rfl, nested, Assembly.marks_close around, Assembly.asks_close around⟩
      | inclusion name => cases silent
      | comment => exact .inl ⟨_, rfl, rfl, (List.append_nil _).symm, rfl⟩
      | directive delimiters => exact .inl ⟨_, rfl, rfl, (List.append_nil _).symm, rfl⟩

end Place

end Mustache
