import Mustache.Proofs.Template.Foretold
import Mustache.Proofs.Template.Printed
import Mustache.Proofs.Token.Place

/-!
Lines. What a template or a refusal says of a line is one more than there are newlines in front of
the closing marker of a tag, in the source that has this tag. Nothing else counts, and nothing
counts twice: neither do newlines that are dropped, nor those inside of comments, tags and
directives, nor those of the source around a partial.
-/

namespace Mustache

set_option autoImplicit false

/-- What a source is refused for by itself, on the line of the tag that is to blame. For a section
that is never closed that is its opening tag. -/
inductive Source.Refuses (source : Source) : ParseError → Prop where
  | unreadable {front content after : List Char} {error : ParseError}
      (standing : TagAt source.characters source.scan.tokens front content after)
      (told : Tag.readBefore (Token.markersBehind source.scan.tokens) content after
        (1 + newlines front) = .error error)
      (line : error.line = some (1 + newlines front : Nat)) : Refuses source error
  | ended {error : ParseError} {content : String}
      (failed : source.scan.failure = some (.parse error))
      (whole : error = ⟨.endedInTag content, some (1 + newlines source.characters : Nat)⟩) :
      Refuses source error
  | unopened {earlier later : List Token} {name : String} {line : Nat}
      {front content after : List Char}
      (split : source.scan.tokens = earlier ++ .tag (.closing name) line :: later)
      (standing : TagAt source.characters earlier front content after)
      (nested : WellNested earlier) :
      Refuses source ⟨.closeWithoutOpen name, some (1 + newlines front : Nat)⟩
  | mismatched {earlier later : List Token} {name : String} {line : Nat}
      {front content after : List Char} {opener : Opener} {around : List Opener}
      (split : source.scan.tokens = earlier ++ .tag (.closing name) line :: later)
      (standing : TagAt source.characters earlier front content after)
      (left : LeavesOpen earlier (opener :: around)) (other : opener.name ≠ name) :
      Refuses source ⟨.closeMismatch name opener.name, some (1 + newlines front : Nat)⟩
  | unclosed {earlier body : List Token} {front content after : List Char} {opener : Opener}
      {around : List Opener} (split : source.scan.tokens = earlier ++ opener.token :: body)
      (standing : TagAt source.characters earlier front content after)
      (outer : LeavesOpen earlier around) (inner : WellNested body) :
      Refuses source ⟨.neverClosed opener.inverted opener.name, some (1 + newlines front : Nat)⟩

/-- Tokens that do not nest are blamed on the line of a tag. -/
theorem Misnested.refuses {source : Source} {error : ParseError}
    (misnested : Misnested source.scan.tokens error) : source.Refuses error := by
  generalize whole : source.scan.tokens = tokens at misnested
  cases misnested with
  | unopened nested =>
      obtain ⟨front, content, after, _, standing, _, counted⟩ := scan_placed source whole
      rw [counted]
      exact .unopened whole standing nested
  | mismatched left other =>
      obtain ⟨front, content, after, _, standing, _, counted⟩ := scan_placed source whole
      rw [counted]
      exact .mismatched whole standing left other
  | @unclosed _ opener around left =>
      cases left with
      | opened outer inner =>
          obtain ⟨front, content, after, _, standing, _, counted⟩ := scan_placed source whole
          rw [counted]
          exact .unclosed whole standing outer inner

theorem own_fault_refuses {source : Source} {fault : Fault} (own : source.ownFault = some fault) :
    source.readFailure = some fault ∨ ∃ error, fault = .parse error ∧ source.Refuses error := by
  have nesting {error : ParseError}
      (fails : nestAll [] source.scan.tokens >>= nestOut = .error error) : source.Refuses error :=
    (misnested_iff.mpr fails).refuses
  unfold Source.ownFault faultFrom at own
  split at own
  · next error refused =>
      cases own
      exact .inr ⟨error, rfl, nesting (by rw [refused]; rfl)⟩
  · next openers taken =>
      split at own
      · next failed =>
          cases own
          rcases scan_unreadable failed with read | ⟨error, rfl, unreadable⟩
          · exact .inl read
          · refine .inr ⟨error, rfl, ?_⟩
            cases unreadable with
            | refused standing told => exact .unreadable standing told (read_before_line told)
            | ended => exact .ended failed rfl
      · next error _ out =>
          cases own
          exact .inr ⟨error, rfl, nesting (by rw [taken]; exact out)⟩
      · cases own

/-- A parse error is due to a source that has been compiled on the way, or to the loader, or to a
stream of the loader that raises it when it is read or closed. -/
def Blames (loader : Loader) (journal : Journal) (root : Source) (error : ParseError) : Prop :=
  (∃ source, (source = root ∨ ∃ name, journal.Replied loader name (.ok source)) ∧
    (source.Refuses error ∨ source.readFailure = some (.parse error))) ∨
  (∃ name source, journal.Replied loader name (.ok source) ∧
    source.closeFailure = some (.parse error)) ∨
  ∃ name, journal.Replied loader name (.error (.parse error))

/-- A walk through the segments is a walk through the tokens of the source. -/
def Source.Becomes (source : Source) (config : Config) (segments : List Segment) : Prop :=
  Segment.marksAll segments = source.scan.tokens.flatMap (Token.marks config)

/-- What the loader has delivered for a partial becomes its segments, at any depth. -/
def Journal.Embedded (config : Config) (journal : Journal) (segments : List Segment) : Prop :=
  Segment.EverywhereAll (Segment.Partials fun name body =>
    ∃ source, journal.Replied config.loader name (.ok source) ∧
      source.Becomes config body) segments

theorem compile_levels_foretell (config : Config) (final : Journal) (root : Source) (fuel : Nat)
    (chain : List String) (source : Source) :
    Foretells final (source = root ∨ ∃ name, final.Replied config.loader name (.ok source))
      (fun fault => ∀ error, fault = .parse error → Blames config.loader final root error)
      (fun segments => source.Becomes config segments ∧
        final.Embedded config segments)
      (compileLevels config fuel chain source) := by
  induction fuel generalizing chain source with
  | zero => exact .of_throw fun _ => nofun
  | succ fuel induction =>
      let holds (name : String) (body : List Segment) : Prop :=
        (∃ source, final.Replied config.loader name (.ok source) ∧
          source.Becomes config body) ∧ final.Embedded config body
      have included (name : String) :
          Foretells final (source = root ∨ ∃ name, final.Replied config.loader name (.ok source))
            (fun fault => ∀ error, fault = .parse error → Blames config.loader final root error)
            (holds name) (includeWith config.loader (compileLevels config fuel) chain name) := by
        apply Foretells.of_include
        · exact fun _ => nofun
        · intro fault replied _ error same
          unfold Fault.wrapped at same
          split at same
          · exact .inr (.inr ⟨name, same ▸ replied⟩)
          · cases same
        · rintro inner replied _ fails _ error rfl
          exact .inr (.inl ⟨name, inner, replied, fails⟩)
        · intro inner
          apply (induction (chain ++ [name]) inner).weaken fun told => .inr ⟨name, told.2⟩
          rintro segments ⟨_, replied⟩ ⟨becomes, embedded⟩
          exact ⟨⟨inner, replied, becomes⟩, embedded⟩
      rw [compile_levels_succ]
      apply (compile_foretells included source.scan ?_).weaken id
      · rintro segments _ ⟨becomes, embeds⟩
        exact ⟨becomes, (Segment.everywhere_all_partials_iff _ segments).mpr embeds⟩
      · rintro fault own known error rfl
        rcases own_fault_refuses own with read | ⟨_, ⟨⟩, refuses⟩
        · exact .inl ⟨source, known, .inr read⟩
        · exact .inl ⟨source, known, .inl refuses⟩

/-- Lines are those of closing markers: of the tag that a segment comes from and of the tag that is
to blame for a refusal, each counted in the source that has the tag. -/
theorem lines_are_counted_to_closing_markers (config : Config) (chain : List String)
    (source : Source) :
    let run := config.runCompile chain source
    (∀ (given : Source) earlier tag line later,
      given.scan.tokens = earlier ++ .tag tag line :: later →
        Token.Placed given.characters earlier tag line) ∧
    (∀ template, run.1 = .ok template →
      source.Becomes config template.segments ∧
        run.2.Embedded config template.segments) ∧
    ∀ error, run.1 = .error (.parse error) → Blames config.loader run.2 source error := by
  intro run
  obtain ⟨_, foretold⟩ := compile_levels_foretell config run.2 source (config.loader.depth + 1) chain
    source []
  have ends := foretold (by dsimp only [run]; rw [run_compile_levels]) (.inl rfl)
  have outcome : run.1 = ((compileLevels config (config.loader.depth + 1) chain source).run []).1.map
      fun segments => ⟨segments, config⟩ := by
    dsimp only [run]
    rw [run_compile_levels]
  rw [outcome]
  refine ⟨fun given _ _ _ _ split => scan_placed given split, ?_, ?_⟩
  · intro template made
    cases result : ((compileLevels config (config.loader.depth + 1) chain source).run []).1 with
    | error fault =>
        rw [result] at made
        cases made
    | ok segments =>
        rw [result] at made ends
        cases made
        exact ends
  · intro error failed
    cases result : ((compileLevels config (config.loader.depth + 1) chain source).run []).1 with
    | error fault =>
        rw [result] at failed ends
        cases failed
        exact ends error rfl
    | ok segments =>
        rw [result] at failed
        cases failed

/-- Newlines inside of a comment and of a tag, and one that is dropped. A partial has lines of its
own, and a section that is not closed is blamed on the line where it was opened. -/
theorem lines_of_a_page_and_of_its_word :
    let tag (content : String) : String := String.ofList (Delimiters.standard.tag content.toList)
    let table := [("word", "\n" ++ tag "y")]
    let config : Config := ⟨.standard, .ofTable 1 table⟩
    let page : Source :=
      .text (tag "#a" ++ "\n" ++ tag "!c\nd" ++ tag "x\n" ++ tag ">word" ++ tag "/a")
    let broken : Source := .text ("\n" ++ tag "#a" ++ "\n" ++ tag "^b" ++ "\n" ++ tag "/b")
    let tokens : List Token := [.tag (.opening false "a") 1, .tag .comment 3,
      .tag (.interpolation "x" false) 4, .tag (.inclusion "word") 4, .tag (.closing "a") 4]
    page.scan.tokens = tokens ∧
      Token.Placed page.characters (tokens.take 2) (.interpolation "x" false) 4 ∧
      (∃ template, (config.runCompile [] page).1 = .ok template ∧
        page.Becomes config template.segments ∧
        (config.runCompile [] page).2.Embedded config template.segments) ∧
      (config.runCompile [] broken).1 = .error (.parse ⟨.neverClosed false "a", some 2⟩) ∧
      Blames config.loader (config.runCompile [] broken).2 broken
        ⟨.neverClosed false "a", some 2⟩ := by
  intro tag table config page broken tokens
  have scanned : page.scan.tokens = tokens := by decide +kernel
  have succeeds : (config.runCompile [] page).1.isOk = true := by decide +kernel
  have fails : faultOf (config.runCompile [] broken).1 =
      some (.parse ⟨.neverClosed false "a", some 2⟩) := by decide +kernel
  obtain ⟨placed, made, _⟩ := lines_are_counted_to_closing_markers config [] page
  obtain ⟨_, _, blamed⟩ := lines_are_counted_to_closing_markers config [] broken
  have refused := fault_of_eq_some.mp fails
  obtain ⟨template, outcome⟩ := except_of_is_ok succeeds
  exact ⟨scanned, placed page _ _ _ (tokens.drop 3) (scanned.trans rfl),
    ⟨template, outcome, made template outcome⟩, refused, blamed _ refused⟩

end Mustache
