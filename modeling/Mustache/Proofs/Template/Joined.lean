import Mustache.Proofs.Template.Sections
import Mustache.Proofs.Template.Table
import Mustache.Proofs.Token.Seam

/-!
Compiling a source behind another one. Its tokens are assembled on top of the segments that are
there already, and at no place do they get to see these: a section takes the segments behind its
opening tag only. So the second source has the same segments as by itself, or is refused for the
same reason, on lines that are counted on.
-/

namespace Mustache

set_option autoImplicit false

namespace Segment

mutual
/-- The same segment, with so many lines before the source that it was written in. The lines in a
partial are not counted from there. -/
def moved (lines : Nat) : Segment → Segment
  | .text content => .text content
  | .interpolation name escaped line => .interpolation name escaped (line + lines)
  | .block inverted name line body => .block inverted name (line + lines) (movedAll lines body)
  | .included name config body => .included name config body
  termination_by structural segment => segment
def movedAll (lines : Nat) : List Segment → List Segment
  | [] => []
  | segment :: rest => moved lines segment :: movedAll lines rest
  termination_by structural segments => segments
end

theorem moved_all_eq (lines : Nat) (segments : List Segment) :
    movedAll lines segments = segments.map (moved lines) := by
  induction segments with
  | nil => rfl
  | cons segment segments induction => rw [movedAll, induction, List.map_cons]

theorem moved_all_reverse (lines : Nat) (segments : List Segment) :
    movedAll lines segments.reverse = (movedAll lines segments).reverse := by
  simp only [moved_all_eq, List.map_reverse]

mutual
theorem moved_none (segment : Segment) : segment.moved 0 = segment := by
  match segment with
  | .text _ | .interpolation _ _ _ | .included _ _ _ => rfl
  | .block _ _ _ body => rw [moved, moved_all_none body, Nat.add_zero]
  termination_by structural segment
theorem moved_all_none (segments : List Segment) : movedAll 0 segments = segments := by
  match segments with
  | [] => rfl
  | segment :: rest => rw [movedAll, moved_none segment, moved_all_none rest]
  termination_by structural segments
end

theorem moved_all_append (lines : Nat) (segments rest : List Segment) :
    movedAll lines (segments ++ rest) = movedAll lines segments ++ movedAll lines rest := by
  simp only [moved_all_eq, List.map_append]

/-- A text in front of segments, one with a text that these begin with. -/
def prependText (content : String) : List Segment → List Segment
  | .text next :: rest => .text (content ++ next) :: rest
  | segments => .text content :: segments

/-- The same segments with one text in place of several that follow each other. -/
def mergeTexts : List Segment → List Segment
  | [] => []
  | .text content :: rest => prependText content (mergeTexts rest)
  | segment :: rest => segment :: mergeTexts rest

theorem merge_texts_join (content next : String) (segments : List Segment) :
    mergeTexts (.text content :: .text next :: segments) =
      mergeTexts (.text (content ++ next) :: segments) := by
  have twice (merged : List Segment) :
      prependText content (prependText next merged) = prependText (content ++ next) merged := by
    cases merged with
    | nil => rfl
    | cons segment rest =>
        cases segment with
        | text last => simp [prependText, String.append_assoc]
        | _ => rfl
  exact twice (mergeTexts segments)

theorem merge_texts_congr {segments others : List Segment}
    (same : mergeTexts segments = mergeTexts others) (front : List Segment) :
    mergeTexts (front ++ segments) = mergeTexts (front ++ others) := by
  induction front with
  | nil => exact same
  | cons segment front induction =>
      cases segment with
      | text content => exact congrArg (prependText content) induction
      | interpolation name escaped line => exact congrArg (_ :: ·) induction
      | block inverted name line body => exact congrArg (_ :: ·) induction
      | included name config body => exact congrArg (_ :: ·) induction

def ofText (content : List Char) : List Segment :=
  if content = [] then [] else [.text (String.ofList content)]

theorem reverse_of_text (content : List Char) : (ofText content).reverse = ofText content := by
  unfold ofText
  split <;> rfl

theorem moved_of_text (lines : Nat) (content : List Char) :
    movedAll lines (ofText content) = ofText content := by
  unfold ofText
  split <;> rfl

theorem merge_texts_seam (content text : List Char) (segments : List Segment) :
    mergeTexts (.text (String.ofList (content ++ text)) :: segments) =
      mergeTexts (.text (String.ofList content) :: (ofText text ++ segments)) := by
  unfold ofText
  split
  · next nothing => simp [nothing]
  · rw [List.singleton_append, merge_texts_join, String.ofList_append]

end Segment

namespace Assembly

/-- The segments of a level, moved. Those of the outermost level come behind the given ones. -/
def levelOnto (lines : Nat) (base : List Segment) (around : List OpenBlock)
    (level : List Segment) : List Segment :=
  Segment.movedAll lines level ++ if around.isEmpty then base else []

def blocksOnto (lines : Nat) (base : List Segment) : List OpenBlock → List OpenBlock
  | [] => []
  | block :: around =>
      { block with
        line := block.line + lines
        outer := levelOnto lines base around block.outer } :: blocksOnto lines base around

/-- The same assembly behind segments that were there before, latest first. -/
def onto (lines : Nat) (base : List Segment) (assembly : Assembly) : Assembly :=
  ⟨levelOnto lines base assembly.blocks assembly.current, blocksOnto lines base assembly.blocks⟩

variable {lines : Nat} {base : List Segment}

theorem empty_onto : empty.onto lines base = ⟨base, []⟩ := rfl

theorem empty_with_text (content : List Char) :
    empty.withText content = ⟨Segment.ofText content, []⟩ := by
  unfold withText Segment.ofText
  split <;> rfl

theorem close_onto (assembly : Assembly) (name : String) (line : Nat) :
    (assembly.onto lines base).closeBlock name (line + lines : Nat) =
      ((assembly.closeBlock name line).map (onto lines base)).mapError
        (ParseError.moved lines) := by
  rcases assembly with ⟨current, blocks⟩
  cases blocks with
  | nil => simp [closeBlock, onto, blocksOnto, Except.map, Except.mapError, ParseError.moved]
  | cons block around =>
      by_cases fits : block.name = name
      · simp [closeBlock, onto, blocksOnto, levelOnto, Except.map, Except.mapError, fits,
          Segment.movedAll, Segment.moved, Segment.moved_all_reverse]
      · simp [closeBlock, onto, blocksOnto, Except.map, Except.mapError, fits, ParseError.moved]

theorem finish_onto (assembly : Assembly) :
    (assembly.onto lines base).finish =
      (assembly.finish.map (base.reverse ++ Segment.movedAll lines ·)).mapError
        (ParseError.moved lines) := by
  rcases assembly with ⟨current, blocks⟩
  cases blocks with
  | nil =>
      simp [finish, onto, blocksOnto, levelOnto, Except.map, Except.mapError,
        Segment.moved_all_reverse]
  | cons block around =>
      simp [finish, onto, blocksOnto, Except.map, Except.mapError, ParseError.moved]

end Assembly

/-- How a fault changes that taking a token leads to. A fault of a partial has lines of its own. -/
def Token.carry (lines : Nat) : Token → Fault → Fault
  | .tag (.inclusion _) _ => id
  | _ => Fault.moved lines

section Onto

variable {lines : Nat} {base : List Segment} {config : Config}
  {partials : String → Except Fault (List Segment)}

theorem place_onto (assembly : Assembly) (token : Token) :
    (assembly.onto lines base).place config partials (token.moved lines) =
      ((assembly.place config partials token).map (Assembly.onto lines base)).mapError
        (token.carry lines) := by
  cases token with
  | text content => rfl
  | tag tag line =>
      cases tag with
      | closing name =>
          change ((assembly.onto lines base).closeBlock name (line + lines : Nat)).mapError
            Fault.parse = _
          rw [Assembly.close_onto]
          simp only [Assembly.place]
          cases assembly.closeBlock name line <;> rfl
      | inclusion name =>
          simp only [Assembly.place, Token.moved]
          cases partials name <;> rfl
      | interpolation name raw => rfl
      | opening inverted name => rfl
      | comment => rfl
      | directive delimiters => rfl

/-- Every partial that the tokens get to is there. -/
def Assembly.Provided (config : Config) (partials : String → Except Fault (List Segment))
    (assembly : Assembly) (tokens : List Token) : Prop :=
  ∀ before name line after, tokens = before ++ .tag (.inclusion name) line :: after →
    ∀ reached, assembly.placeAll config partials before = .ok reached →
      ∃ body, partials name = .ok body

theorem provided_cons_iff {assembly : Assembly} {token : Token} {tokens : List Token} :
    assembly.Provided config partials (token :: tokens) ↔
      (∀ name line, token = .tag (.inclusion name) line → ∃ body, partials name = .ok body) ∧
        ∀ next, assembly.place config partials token = .ok next →
          next.Provided config partials tokens := by
  constructor
  · intro provided
    constructor
    · rintro name line rfl
      exact provided [] name line tokens rfl assembly rfl
    · rintro next placed before name line after rfl reached all
      apply provided (token :: before) name line after rfl reached
      rw [place_all_cons, placed]
      exact all
  · rintro ⟨here, later⟩ before name line after split reached all
    cases before with
    | nil =>
        cases split
        exact here name line rfl
    | cons first before =>
        cases split
        rw [place_all_cons] at all
        obtain ⟨next, placed, all⟩ := except_of_bind_ok all
        exact later next placed before name line after rfl reached all

theorem Token.carry_of_own {token : Token}
    (own : ∀ name line, token ≠ .tag (.inclusion name) line) :
    token.carry lines = Fault.moved lines := by
  cases token with
  | text content => rfl
  | tag tag line =>
      cases tag with
      | inclusion name => exact (own name line rfl).elim
      | _ => rfl

theorem place_included {assembly : Assembly} {name : String} {line : Nat} {body : List Segment}
    (there : partials name = .ok body) :
    assembly.place config partials (.tag (.inclusion name) line) =
      .ok (assembly.add (.included name config body)) := by
  rw [Assembly.place, there]
  rfl

theorem place_missing {assembly : Assembly} {name : String} {line : Nat} {fault : Fault}
    (missing : partials name = .error fault) :
    assembly.place config partials (.tag (.inclusion name) line) = .error fault := by
  rw [Assembly.place, missing]
  rfl

theorem provided_onto (lines : Nat) (base : List Segment) {assembly : Assembly}
    {tokens : List Token} :
    (assembly.onto lines base).Provided config partials (tokens.map (Token.moved lines)) ↔
      assembly.Provided config partials tokens := by
  induction tokens generalizing assembly with
  | nil => simp [Assembly.Provided]
  | cons token tokens induction =>
      rw [List.map_cons, provided_cons_iff, provided_cons_iff, place_onto]
      apply and_congr
      · rcases token with content | ⟨tag, line⟩
        · simp [Token.moved]
        · simp [Token.moved]
      · cases assembly.place config partials token with
        | ok next =>
            constructor
            · rintro later _ ⟨⟩
              exact induction.mp (later _ rfl)
            · rintro later _ ⟨⟩
              exact induction.mpr (later _ rfl)
        | error fault => exact iff_of_true nofun nofun

/-- Where every partial is there, the tokens can only be refused for what they are themselves. -/
theorem place_all_onto (lines : Nat) (base : List Segment) {assembly : Assembly}
    {tokens : List Token} (provided : assembly.Provided config partials tokens) :
    (assembly.onto lines base).placeAll config partials (tokens.map (Token.moved lines)) =
      ((assembly.placeAll config partials tokens).map (Assembly.onto lines base)).mapError
        (Fault.moved lines) := by
  induction tokens generalizing assembly with
  | nil => rfl
  | cons token tokens induction =>
      obtain ⟨here, later⟩ := provided_cons_iff.mp provided
      rw [List.map_cons, place_all_cons, place_all_cons, place_onto]
      cases placed : assembly.place config partials token with
      | ok next => exact induction (later next placed)
      | error fault =>
          have own : ∀ name line, token ≠ .tag (.inclusion name) line := by
            rintro name line rfl
            obtain ⟨body, there⟩ := here name line rfl
            cases (place_included there).symm.trans placed
          rw [Token.carry_of_own own]
          rfl

theorem provided_append_iff {assembly next : Assembly} {front rest : List Token}
    (placed : assembly.placeAll config partials front = .ok next) :
    assembly.Provided config partials (front ++ rest) ↔
      next.Provided config partials rest := by
  induction front generalizing assembly with
  | nil =>
      cases placed
      exact Iff.rfl
  | cons token front induction =>
      obtain ⟨between, here, placed⟩ := except_of_bind_ok ((place_all_cons _ _ _).symm.trans placed)
      rw [List.cons_append, provided_cons_iff, ← induction placed, here]
      constructor
      · rintro ⟨_, later⟩
        exact later between rfl
      · intro later
        constructor
        · rintro name line rfl
          cases included : partials name with
          | ok body => exact ⟨body, rfl⟩
          | error fault => cases (place_missing included).symm.trans here
        · rintro _ ⟨⟩
          exact later

theorem provided_of_placed {assembly next : Assembly} {tokens : List Token}
    (placed : assembly.placeAll config partials tokens = .ok next) :
    assembly.Provided config partials tokens := by
  have nothing : next.Provided config partials [] := by simp [Assembly.Provided]
  have whole := (provided_append_iff placed).mpr nothing
  rwa [List.append_nil] at whole

/-- Otherwise the first partial that is not there is what they are refused for. -/
theorem place_all_onto_missing (lines : Nat) (base : List Segment) {assembly : Assembly}
    {tokens : List Token} (missing : ¬ assembly.Provided config partials tokens) :
    ∃ fault, assembly.placeAll config partials tokens = .error fault ∧
      (assembly.onto lines base).placeAll config partials (tokens.map (Token.moved lines)) =
        .error fault := by
  simp only [Assembly.Provided, not_forall] at missing
  obtain ⟨before, name, line, after, rfl, reached, all, absent⟩ := missing
  cases included : partials name with
  | ok body => exact (absent ⟨body, included⟩).elim
  | error fault =>
      have behind := place_all_onto lines base (provided_of_placed all)
      rw [all] at behind
      have stops (assembly : Assembly) (line : Nat) (after : List Token) :
          assembly.placeAll config partials (.tag (.inclusion name) line :: after) =
            .error fault := by
        rw [place_all_cons, place_missing included]
        rfl
      refine ⟨fault, ?_, ?_⟩
      · rw [place_all_append, all]
        exact stops reached line after
      · rw [List.map_append, place_all_append, behind]
        exact stops (reached.onto lines base) (line + lines) (after.map (Token.moved lines))

/-- What the tokens make behind others that leave no section open. -/
theorem segments_moved (lines : Nat) {front : List Token}
    (placed : Assembly.empty.placeAll config partials front = .ok ⟨base, []⟩) (scan : Scan) :
    let alone := scan.segments config partials
    let behind := (scan.moved lines front).segments config partials
    (Assembly.empty.Provided config partials scan.tokens →
      behind = (alone.map (base.reverse ++ Segment.movedAll lines ·)).mapError
        (Fault.moved lines)) ∧
    (¬ Assembly.empty.Provided config partials scan.tokens →
      ∃ fault, alone = .error fault ∧ behind = .error fault) := by
  intro alone behind
  have split : Assembly.empty.placeAll config partials (scan.moved lines front).tokens =
      (Assembly.empty.onto lines base).placeAll config partials
        (scan.tokens.map (Token.moved lines)) := by
    rw [Scan.moved, place_all_append, placed]
    rfl
  constructor
  · intro provided
    dsimp only [alone, behind, Scan.segments]
    rw [split, place_all_onto lines base provided]
    cases Assembly.empty.placeAll config partials scan.tokens with
    | error fault => rfl
    | ok assembly =>
        rcases scan with ⟨tokens, failure⟩
        cases failure with
        | some fault => rfl
        | none =>
            change (assembly.onto lines base).finish.mapError Fault.parse = _
            rw [Assembly.finish_onto]
            change _ = ((assembly.finish.mapError Fault.parse).map _).mapError _
            cases assembly.finish <;> rfl
  · intro missing
    obtain ⟨fault, first, second⟩ := place_all_onto_missing lines base missing
    refine ⟨fault, ?_, ?_⟩
    · dsimp only [alone, Scan.segments]
      rw [first]
      rfl
    · dsimp only [behind, Scan.segments]
      rw [split, second]
      rfl

/-- Tokens that end with a text, and what else might stand in its place. -/
theorem segments_of_text_end {front : List Token} {content : String} {segments : List Segment}
    (made : Scan.segments config partials ⟨front ++ [.text content], none⟩ = .ok segments) :
    ∃ base, segments = base.reverse ++ [.text content] ∧
      ∀ other, Assembly.empty.placeAll config partials (front ++ [.text other]) =
        .ok ⟨.text other :: base, []⟩ := by
  obtain ⟨_, assembly, placed, finished⟩ := segments_ok_iff.mp made
  obtain ⟨closed, rfl⟩ := Assembly.finish_ok_iff.mp finished
  rw [place_all_append] at placed
  obtain ⟨⟨base, blocks⟩, before, last⟩ := except_of_bind_ok placed
  cases last
  cases closed
  refine ⟨base, List.reverse_cons, ?_⟩
  intro other
  rw [place_all_append, before]
  rfl

/-- The segments of two sources, the second behind the first, compared with those of each by
itself. -/
theorem segments_joined {first : String} (ends : EndsInText first) {segments : List Segment}
    (made : (Source.text first).scan.segments config partials = .ok segments)
    (second : String) :
    let lines := newlines first.toList
    let alone := (Source.text second).scan
    let joined := (Source.text (first ++ second)).scan.segments config partials
    (∃ base content, segments = base ++ [.text content]) ∧
    (∀ next, alone.segments config partials = .ok next → ∃ whole, joined = .ok whole ∧
      Segment.mergeTexts whole =
        Segment.mergeTexts (segments ++ Segment.movedAll lines next)) ∧
    ∀ fault, alone.segments config partials = .error fault →
      (Assembly.empty.Provided config partials alone.tokens →
        joined = .error (fault.moved lines)) ∧
      (¬ Assembly.empty.Provided config partials alone.tokens → joined = .error fault) := by
  intro lines alone joined
  obtain ⟨front, content, text, later, firstly, secondly, both⟩ := scan_joined ends second
  rw [firstly] at made
  obtain ⟨base, rfl, behind⟩ := segments_of_text_end made
  have placed : Assembly.empty.placeAll config partials (Token.ofText text) =
      .ok ⟨Segment.ofText text, []⟩ := by rw [Assembly.place_all_text, Assembly.empty_with_text]
  obtain ⟨own, missing⟩ := segments_moved 0 placed later
  obtain ⟨own', missing'⟩ := segments_moved lines (behind (String.ofList (content ++ text))) later
  have provided : Assembly.empty.Provided config partials alone.tokens ↔
      Assembly.empty.Provided config partials later.tokens := by
    dsimp only [alone]
    rw [secondly]
    rw [← Assembly.empty_onto] at placed
    exact (provided_append_iff placed).trans (provided_onto 0 (Segment.ofText text))
  refine ⟨⟨_, _, rfl⟩, ?_⟩
  dsimp only [alone, joined]
  rw [provided, secondly, both]
  by_cases there : Assembly.empty.Provided config partials later.tokens
  · rw [own there, own' there]
    cases later.segments config partials with
    | ok inner =>
        constructor
        · rintro _ ⟨⟩
          refine ⟨_, rfl, ?_⟩
          dsimp only
          rw [Segment.reverse_of_text, Segment.moved_all_none, Segment.moved_all_append,
            Segment.moved_of_text, List.reverse_cons, List.append_assoc, List.append_assoc]
          exact Segment.merge_texts_congr (Segment.merge_texts_seam content text _) base.reverse
        · rintro fault ⟨⟩
    | error fault =>
        constructor
        · rintro next ⟨⟩
        · rintro _ ⟨⟩
          refine ⟨fun _ => ?_, fun absent => (absent there).elim⟩
          rw [Fault.moved_none]
          rfl
  · obtain ⟨fault, core, refused⟩ := missing there
    obtain ⟨_, core', refused'⟩ := missing' there
    rw [core] at core'
    cases core'
    rw [refused, refused']
    constructor
    · rintro next ⟨⟩
    · rintro _ ⟨⟩
      simp [there]

end Onto

/-- Where including comes to the same whatever was recorded before, so does being supplied. -/
theorem supplied_iff_provided {config : Config}
    {includePartial : String → Compile (List Segment)}
    {partials : String → Except Fault (List Segment)}
    (included : ∀ name, Yields (includePartial name) (partials name)) (tokens : List Token) :
    Supplied config includePartial tokens ↔
      Assembly.empty.Provided config partials tokens := by
  constructor
  · intro supplied before name line after split reached all
    have assembled := @assemble_yields config _ _ included .empty before []
    rcases run : (assemble config includePartial .empty before).run [] with ⟨outcome, journal⟩
    rw [run, all] at assembled
    cases assembled
    obtain ⟨body, later, there⟩ := supplied before name line after split reached journal run
    refine ⟨body, ?_⟩
    rw [← included name journal, there]
  · intro provided before name line after split assembly journal run
    have assembled := @assemble_yields config _ _ included .empty before []
    rw [run] at assembled
    obtain ⟨body, there⟩ := provided before name line after split assembly assembled.symm
    have comes := included name journal
    rw [there] at comes
    rcases again : (includePartial name).run journal with ⟨outcome, later⟩
    rw [again] at comes
    exact ⟨body, later, by rw [← comes]⟩

theorem segments_refused {config : Config} {includePartial : String → Compile (List Segment)}
    {partials : String → Except Fault (List Segment)}
    (included : ∀ name, Yields (includePartial name) (partials name)) {scan : Scan}
    (own : ∀ fault, scan.failure = some fault → ∃ error, fault = .parse error)
    (supplied : Supplied config includePartial scan.tokens) {fault : Fault}
    (refused : scan.segments config partials = .error fault) :
    ∃ error, fault = .parse error := by
  have follows := assemble_follows supplied
  rw [assemble_yields included .empty scan.tokens []] at follows
  unfold Scan.segments at refused
  cases placed : Assembly.empty.placeAll config partials scan.tokens with
  | error other =>
      rw [placed] at follows refused
      cases refused
      obtain ⟨error, rfl, _⟩ := follows
      exact ⟨error, rfl⟩
  | ok assembly =>
      rw [placed] at refused
      cases failed : scan.failure with
      | some other =>
          rw [failed] at refused
          cases refused
          exact own fault failed
      | none =>
          rw [failed] at refused
          change assembly.finish.mapError Fault.parse = .error fault at refused
          cases finished : assembly.finish with
          | error error =>
              rw [finished] at refused
              cases refused
              exact ⟨error, rfl⟩
          | ok segments =>
              rw [finished] at refused
              cases refused

/-- Compiling two sources, the second behind the first, compared with compiling each by itself. -/
theorem compile_joined {config : Config} {identity : Nat} {table : List (String × String)}
    (loads : config.loader = .ofTable identity table) (chain : List String) {first : String}
    (ends : EndsInText first) {template : Template}
    (compiled : (config.runCompile chain (.text first)).1 = .ok template) (second : String) :
    let lines := newlines first.toList
    let outcome := (config.runCompile chain (.text second)).1
    let joined := (config.runCompile chain (.text (first ++ second))).1
    (∃ base content, template.segments = base ++ [.text content]) ∧
    (∀ next, outcome = .ok next → ∃ whole, joined = .ok whole ∧
      Segment.mergeTexts whole.segments =
        Segment.mergeTexts (template.segments ++ Segment.movedAll lines next.segments)) ∧
    ∀ fault, outcome = .error fault →
      (config.Supplies chain (.text second) → ∃ error, fault = .parse error ∧
        joined = .error (.parse (error.moved lines))) ∧
      (¬ config.Supplies chain (.text second) → joined = .error fault) := by
  intro lines outcome joined
  let config := config
  let partials := tableInclude table
    (fun chain content => tableLevels config table config.loader.depth chain (.text content))
    chain
  have comes (source : Source) : (config.runCompile chain source).1 =
      (source.scan.segments config partials).map (Template.mk · config) :=
    run_compile_yields (table_levels_yield loads (config.loader.depth + 1) chain source)
  have included (name : String) :
      Yields (includeWith config.loader (compileLevels config config.loader.depth) chain name)
        (partials name) :=
    table_include_yields loads (fun chain content => table_levels_yield loads _ chain _) chain name
  have supplies : config.Supplies chain (.text second) ↔
      Assembly.empty.Provided config partials (Source.text second).scan.tokens :=
    supplied_iff_provided included _
  rw [comes] at compiled
  cases made : (Source.text first).scan.segments config partials with
  | error fault =>
      rw [made] at compiled
      cases compiled
  | ok segments =>
      rw [made] at compiled
      cases compiled
      obtain ⟨ending, accepted, refused⟩ := segments_joined ends made second
      refine ⟨ending, ?_⟩
      dsimp only [outcome, joined]
      rw [comes, comes, supplies]
      cases alone : (Source.text second).scan.segments config partials with
      | ok next =>
          obtain ⟨whole, same, merged⟩ := accepted next alone
          rw [same]
          constructor
          · rintro _ ⟨⟩
            exact ⟨_, rfl, merged⟩
          · rintro fault ⟨⟩
      | error fault =>
          obtain ⟨here, elsewhere⟩ := refused fault alone
          constructor
          · rintro next ⟨⟩
          · rintro _ ⟨⟩
            constructor
            · intro provided
              have own : ∀ fault, (Source.text second).scan.failure = some fault →
                  ∃ error, fault = .parse error := by
                intro fault failed
                rcases scan_fault failed with parsed | read
                · exact parsed
                · cases read
              obtain ⟨error, rfl⟩ := segments_refused included own (supplies.mpr provided) alone
              rw [here provided]
              exact ⟨error, rfl, rfl⟩
            · intro missing
              rw [elsewhere missing]
              rfl

end Mustache
