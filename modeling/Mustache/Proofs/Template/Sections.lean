import Mustache.Proofs.Template.Printed
import Mustache.Proofs.Template.Refinement
import Mustache.Proofs.Template.Walk
import Mustache.Proofs.Token.Filled

/-!
What compiling makes of the sections of a source. The tree is the source in the order that it was
written in: walking it through gives back what its tags and texts say, and a source has a tree just
if its sections nest. Partials have a part in this only by being there.
-/

namespace Mustache

set_option autoImplicit false

section Run

variable {config : Config} {includePartial : String → Compile (List Segment)}

/-- An action on an assembly does to the open sections what the tokens do, and to the tree what they
say; or the tokens are refused. -/
def Follows (config : Config) (openers : List Opener) (marks : List Mark) (tokens : List Token) :
    Except Fault Assembly → Prop
  | .ok next => nestAll openers tokens = .ok next.openers ∧
      next.marks = marks ++ tokens.flatMap (Token.marks config)
  | .error fault => ∃ error, fault = .parse error ∧ nestAll openers tokens = .error error

theorem nest_all_single (openers : List Opener) (token : Token) :
    nestAll openers [token] = nest openers token := by
  unfold nestAll
  simp

theorem place_follows (assembly : Assembly) (token : Token) (journal : Journal)
    (loaded : ∀ name line, token = .tag (.inclusion name) line →
      ∃ body later, (includePartial name).run journal = (.ok body, later)) :
    Follows config assembly.openers assembly.marks [token]
      ((placeToken config includePartial assembly token).run journal).1 := by
  have alone := nest_all_single assembly.openers token
  cases told : token.inclusion? with
  | none =>
      rcases place_silent assembly told journal with
        ⟨next, run, taken, walked, _⟩ | ⟨error, run, refused⟩
      · rw [run]
        refine ⟨alone.trans taken, ?_⟩
        rw [walked, List.flatMap_singleton]
      · rw [run]
        exact ⟨error, rfl, alone.trans refused⟩
  | some name =>
      obtain ⟨line, rfl⟩ := Token.inclusion_some told
      obtain ⟨body, later, run⟩ := loaded name line rfl
      have placed : (placeToken config includePartial assembly
          (.tag (.inclusion name) line)).run journal =
            (.ok (assembly.add (.included name config body)), later) := Action.run_bind_ok run
      rw [placed]
      exact ⟨alone, Assembly.marks_add assembly (.included name config body)⟩

theorem Follows.trans {openers : List Opener} {marks : List Mark} {tokens rest : List Token}
    {middle : Assembly} {result : Except Fault Assembly}
    (first : Follows config openers marks tokens (.ok middle))
    (second : Follows config middle.openers middle.marks rest result) :
    Follows config openers marks (tokens ++ rest) result := by
  obtain ⟨taken, walked⟩ := first
  have whole : nestAll openers (tokens ++ rest) = nestAll middle.openers rest := by
    rw [nest_all_append, taken]
    rfl
  cases result with
  | ok next =>
      refine ⟨whole.trans second.1, ?_⟩
      rw [second.2, walked, List.flatMap_append, List.append_assoc]
  | error fault =>
      obtain ⟨error, parsed, refused⟩ := second
      exact ⟨error, parsed, whole.trans refused⟩

theorem Follows.refused {openers : List Opener} {marks : List Mark} {tokens : List Token}
    {fault : Fault} (first : Follows config openers marks tokens (.error fault))
    (rest : List Token) : Follows config openers marks (tokens ++ rest) (.error fault) := by
  obtain ⟨error, parsed, refused⟩ := first
  refine ⟨error, parsed, ?_⟩
  rw [nest_all_append, refused]
  rfl

/-- Every partial that is asked for on the way is there. -/
def Supplied (config : Config) (includePartial : String → Compile (List Segment))
    (tokens : List Token) : Prop :=
  ∀ before name line after, tokens = before ++ .tag (.inclusion name) line :: after →
    ∀ assembly journal,
      (assemble config includePartial .empty before).run [] = (.ok assembly, journal) →
      ∃ body later, (includePartial name).run journal = (.ok body, later)

theorem assemble_follows {tokens : List Token}
    (supplied : Supplied config includePartial tokens) :
    Follows config [] [] tokens
      ((assemble config includePartial .empty tokens).run []).1 := by
  induction tokens using List.reverseRecOn with
  | nil => exact ⟨rfl, rfl⟩
  | append_singleton tokens token induction =>
      have shorter : Supplied config includePartial tokens := by
        rintro before name line after rfl
        exact supplied before name line (after ++ [token]) (by simp)
      have first := induction shorter
      rw [assemble_bind, Action.run_bind]
      rcases run : (assemble config includePartial .empty tokens).run [] with ⟨outcome, journal⟩
      rw [run] at first
      cases outcome with
      | error fault => exact first.refused [token]
      | ok assembly =>
          have single : assemble config includePartial assembly [token] =
              placeToken config includePartial assembly token := bind_pure _
          apply first.trans
          dsimp only
          rw [single]
          apply place_follows
          rintro name line rfl
          exact supplied tokens name line [] rfl assembly journal run

/-- Where only the shape counts, and partials are empty. -/
theorem grow_follows (tokens : List Token) :
    Follows .standard [] [] tokens (Assembly.empty.growAll tokens) := by
  have yields : Yields (assemble .standard (fun _ => pure []) .empty tokens)
      (Assembly.empty.growAll tokens) := assemble_yields (fun _ => .of_pure []) .empty tokens
  have supplied : Supplied .standard (fun _ => pure []) tokens :=
    fun _ _ _ _ _ _ journal _ => ⟨[], journal, rfl⟩
  have follows := assemble_follows supplied
  rwa [yields []] at follows

end Run

/-- In a source that nests no tag is one too many. -/
theorem settled_of_nested {scan : Scan} (nested : WellNested scan.tokens) :
    scan.settled = scan := by
  have follows := grow_follows scan.tokens
  cases grown : Assembly.empty.growAll scan.tokens with
  | error fault =>
      rw [grown] at follows
      obtain ⟨error, _, refused⟩ := follows
      rw [well_nested_iff.mp nested] at refused
      cases refused
  | ok shape =>
      have settled := settle_grown scan.failure grown []
      rw [List.append_nil] at settled
      rw [Scan.settled, settled]
      simp [settle]

/-- Every partial that compiling a source gets to is there and can be compiled. -/
def Config.Supplies (config : Config) (chain : List String) (source : Source) : Prop :=
  Supplied config
    (includeWith config.loader (compileLevels config config.loader.depth) chain) source.scan.tokens

/-- What compiling a source comes to when its tags and partials are fine by themselves. -/
theorem compile_nests {config : Config} {chain : List String} {source : Source}
    (readable : source.scan.failure = none) (supplied : config.Supplies chain source) :
    (∃ segments, (config.runCompile chain source).1 = .ok ⟨segments, config⟩ ∧
        nestAll [] source.scan.tokens >>= nestOut = .ok () ∧
        Segment.marksAll segments =
          source.scan.tokens.flatMap (Token.marks config)) ∨
      ∃ error, (config.runCompile chain source).1 = .error (.parse error) ∧
        nestAll [] source.scan.tokens >>= nestOut = .error error := by
  have follows := assemble_follows supplied
  have level := compile_levels_succ config config.loader.depth chain source
  unfold Scan.compile at level
  rw [readable] at level
  unfold Config.runCompile Config.compileInside
  rw [level, Action.run_bind, Action.run_bind]
  rcases run : (assemble config
    (includeWith config.loader (compileLevels config config.loader.depth) chain) .empty
      source.scan.tokens).run [] with ⟨outcome, journal⟩
  rw [run] at follows
  cases outcome with
  | error fault =>
      obtain ⟨error, rfl, refused⟩ := follows
      refine .inr ⟨error, rfl, ?_⟩
      rw [refused]
      rfl
  | ok assembly =>
      obtain ⟨taken, walked⟩ := follows
      have whole : nestAll [] source.scan.tokens >>= nestOut = nestOut assembly.openers := by
        rw [taken]
        rfl
      rw [whole]
      dsimp only
      rw [assembly.finish_nest_out]
      cases left : nestOut assembly.openers with
      | error error => exact .inr ⟨error, rfl, rfl⟩
      | ok _ =>
          have closed : assembly.blocks = [] := by
            unfold Assembly.openers at left
            cases around : assembly.blocks with
            | nil => rfl
            | cons block blocks =>
                rw [around] at left
                cases left
          refine .inl ⟨assembly.current.reverse, rfl, rfl, ?_⟩
          unfold Assembly.marks at walked
          rw [closed] at walked
          exact walked

/-- A source whose tags and partials are fine by themselves compiles just if its sections nest.
The tree then is the source in its own order, and a source without a tree is refused for the first
place where its sections do not nest. -/
theorem sections_nest (config : Config) (chain : List String) (source : Source)
    (readable : source.scan.failure = none) (supplied : config.Supplies chain source) :
    let tokens := source.scan.tokens
    let outcome := (config.runCompile chain source).1
    ((∃ template, outcome = .ok template) ↔ WellNested tokens) ∧
    (∀ template, outcome = .ok template →
      source.scan = (Reading.ofText source.characters).scan ∧
      Segment.marksAll template.segments =
        tokens.flatMap (Token.marks config)) ∧
    (∀ content, .text content ∈ tokens → content ≠ "") ∧
    (∀ fault, outcome = .error fault ↔ ∃ error, fault = .parse error ∧ Misnested tokens error) ∧
    ∀ inverted name (line : Nat), ParseError.message ⟨.neverClosed inverted name, some line⟩ =
      (if inverted then "Inverted section" else "Section") ++ " missing close tag '" ++ name ++
        "'" ++ " @ line " ++ toString line := by
  intro tokens outcome
  have filled : ∀ content, .text content ∈ tokens → content ≠ "" := by
    rintro content member rfl
    exact scan_filled source _ member rfl
  rcases compile_nests readable supplied with
    ⟨segments, compiled, taken, walked⟩ | ⟨error, refused, fails⟩
  · have nested : WellNested tokens := well_nested_iff_out.mpr taken
    refine ⟨⟨fun _ => nested, fun _ => ⟨_, compiled⟩⟩, ?_, filled, ?_, fun _ _ _ => rfl⟩
    · intro template same
      cases compiled.symm.trans same
      refine ⟨?_, walked⟩
      have settled := settled_of_nested nested
      rw [scan_of_characters readable] at settled ⊢
      rw [← settled, scan_settled, String.toList_ofList]
    · intro fault
      constructor
      · intro same
        cases compiled.symm.trans same
      · rintro ⟨error, rfl, misnested⟩
        cases taken.symm.trans (misnested_iff.mp misnested)
  · refine ⟨⟨?_, ?_⟩, ?_, filled, ?_, fun _ _ _ => rfl⟩
    · rintro ⟨template, same⟩
      cases refused.symm.trans same
    · intro nested
      cases fails.symm.trans (well_nested_iff_out.mp nested)
    · intro template same
      cases refused.symm.trans same
    · intro fault
      constructor
      · intro same
        cases refused.symm.trans same
        exact ⟨error, rfl, misnested_iff.mpr fails⟩
      · rintro ⟨other, rfl, misnested⟩
        cases fails.symm.trans (misnested_iff.mp misnested)
        exact refused

theorem mixed_sections_nest :
    let tag (content : String) : String := String.ofList (Delimiters.standard.tag content.toList)
    let config : Config := ⟨.standard, ⟨1, 1, fun _ _ => ⟨[], .ok (.text "y")⟩⟩⟩
    let nested : Source :=
      .text (tag "#a" ++ "x" ++ tag "> p" ++ tag "^" ++ tag "!c" ++ tag "/" ++ tag "/ a")
    let crossed : Source := .text (tag "#a" ++ tag "^b" ++ tag "/a" ++ tag "/b")
    WellNested nested.scan.tokens ∧
      (config.runCompile [] crossed).1 = .error (.parse ⟨.closeMismatch "a" "b", some 1⟩) := by
  intro tag config nested crossed
  have others : crossed.scan.tokens =
      [.tag (.opening false "a") 1, .tag (.opening true "b") 1, .tag (.closing "a") 1,
        .tag (.closing "b") 1] := by decide +kernel
  constructor
  · have supplied : config.Supplies [] nested := by
      intro before name line after split assembly journal _
      exact ⟨[.text "y"], _, rfl⟩
    have succeeds : (config.runCompile [] nested).1.isOk = true := by decide +kernel
    apply (sections_nest config [] nested (by decide +kernel) supplied).1.mp
    cases outcome : (config.runCompile [] nested).1 with
    | ok template => exact ⟨template, rfl⟩
    | error fault =>
        rw [outcome] at succeeds
        cases succeeds
  · have supplied : config.Supplies [] crossed := by
      intro before name line after split assembly journal _
      exact ⟨[.text "y"], _, rfl⟩
    apply ((sections_nest config [] crossed (by decide +kernel) supplied).2.2.2.1 _).mpr
    refine ⟨_, rfl, ?_⟩
    rw [others]
    have left : LeavesOpen [.tag (.opening false "a") 1, .tag (.opening true "b") 1]
        [⟨true, "b", 1⟩, ⟨false, "a", 1⟩] := leaves_open_iff.mpr rfl
    exact .mismatched left (by decide)

end Mustache
