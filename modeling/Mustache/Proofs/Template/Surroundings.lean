import Mustache.Proofs.Template.Flags
import Mustache.Proofs.Template.Inclusion

/-!
Compiling a source inside of partials. The names around a source can keep it from being compiled,
as they may not be included again, but they never change what it is compiled to. So an embedded
partial is the template that its own text makes.
-/

namespace Mustache

set_option autoImplicit false

namespace Assembly.Each

variable {holds : Segment → Prop} {assembly : Assembly}

theorem add_iff {segment : Segment} :
    (assembly.add segment).Each holds ↔ holds segment ∧ assembly.Each holds := by
  unfold Assembly.Each Assembly.add
  rw [List.forall_mem_cons, and_assoc]

theorem open_iff {inverted : Bool} {name : String} {line : Nat} :
    (assembly.openBlock inverted name line).Each holds ↔ assembly.Each holds := by
  unfold Assembly.Each Assembly.openBlock
  rw [List.forall_mem_cons]
  exact and_iff_right nofun

/-- Closing a section loses no segment, and asks nothing new if a section has the property just
because its segments do. -/
theorem close_iff
    (inherits : ∀ inverted name line body,
      holds (.block inverted name line body) ↔ ∀ segment ∈ body, holds segment)
    {config : Config} {partials : String → Except Fault (List Segment)} {name : String}
    {line : Nat} {next : Assembly}
    (closed : assembly.place config partials (.tag (.closing name) line) = .ok next) :
    next.Each holds ↔ assembly.Each holds := by
  obtain ⟨block, blocks, around, _, rfl⟩ := place_closing_iff.mp closed
  unfold Assembly.Each
  rw [around, List.forall_mem_cons, List.forall_mem_cons, inherits, and_assoc]
  simp only [List.mem_reverse]

end Assembly.Each

section Selection

variable {config : Config} {partials others : String → Except Fault (List Segment)}
  {good : String → List Segment → Prop}
  (selects : ∀ name body, partials name = .ok body ↔ others name = .ok body ∧ good name body)
include selects

/-- With a selection of the partials, a token is taken just if it is with all of them and what it
adds is among the selected. -/
theorem place_selected_iff {assembly next : Assembly} {token : Token} :
    assembly.place config partials token = .ok next ∧
        assembly.Each (Segment.Embeds good) ↔
      assembly.place config others token = .ok next ∧ next.Each (Segment.Embeds good) := by
  have added {segment : Segment} (free : segment.Embeds good) :
      assembly.Each (Segment.Embeds good) ↔
        (assembly.add segment).Each (Segment.Embeds good) :=
    (and_iff_right free).symm.trans Assembly.Each.add_iff.symm
  cases token with
  | text content =>
      apply and_congr_right
      rintro ⟨⟩
      exact added trivial
  | tag tag line =>
      cases tag with
      | interpolation name raw =>
          apply and_congr_right
          rintro ⟨⟩
          exact added trivial
      | opening inverted name =>
          apply and_congr_right
          rintro ⟨⟩
          exact Assembly.Each.open_iff.symm
      | closing name =>
          apply and_congr_right
          intro closed
          refine (Assembly.Each.close_iff ?_ closed).symm
          intro _ _ _ body
          exact Segment.embeds_all_iff good body
      | inclusion name =>
          have placed (available : String → Except Fault (List Segment)) :
              assembly.place config available (.tag (.inclusion name) line) = .ok next ↔
                ∃ body, available name = .ok body ∧
                  assembly.add (.included name config body) = next := by
            simp only [Assembly.place]
            cases available name with
            | error fault =>
                constructor
                · intro same
                  cases same
                · rintro ⟨_, ⟨⟩, _⟩
            | ok body =>
                constructor
                · intro same
                  exact ⟨body, rfl, Except.ok.inj same⟩
                · rintro ⟨_, ⟨⟩, rfl⟩
                  rfl
          rw [placed, placed]
          constructor
          · rintro ⟨⟨body, loaded, rfl⟩, each⟩
            obtain ⟨loaded, fits⟩ := (selects name body).mp loaded
            exact ⟨⟨body, loaded, rfl⟩, Assembly.Each.add_iff.mpr ⟨fits, each⟩⟩
          · rintro ⟨⟨body, loaded, rfl⟩, each⟩
            obtain ⟨fits, each⟩ := Assembly.Each.add_iff.mp each
            exact ⟨⟨body, (selects name body).mpr ⟨loaded, fits⟩, rfl⟩, each⟩
      | comment =>
          apply and_congr_right
          rintro ⟨⟩
          exact Iff.rfl
      | directive delimiters =>
          apply and_congr_right
          rintro ⟨⟩
          exact Iff.rfl

theorem place_all_selected_iff {tokens : List Token} {assembly next : Assembly} :
    assembly.placeAll config partials tokens = .ok next ∧
        assembly.Each (Segment.Embeds good) ↔
      assembly.placeAll config others tokens = .ok next ∧
        next.Each (Segment.Embeds good) := by
  induction tokens generalizing assembly with
  | nil =>
      apply and_congr_right
      rintro ⟨⟩
      exact Iff.rfl
  | cons token tokens induction =>
      rw [place_all_cons, place_all_cons]
      constructor
      · rintro ⟨placed, each⟩
        obtain ⟨middle, first, rest⟩ := except_of_bind_ok placed
        obtain ⟨first, each⟩ := (place_selected_iff selects).mp ⟨first, each⟩
        rw [first]
        exact induction.mp ⟨rest, each⟩
      · rintro ⟨placed, each⟩
        obtain ⟨middle, first, rest⟩ := except_of_bind_ok placed
        obtain ⟨rest, each⟩ := induction.mpr ⟨rest, each⟩
        obtain ⟨first, each⟩ := (place_selected_iff selects).mpr ⟨first, each⟩
        rw [first]
        exact ⟨rest, each⟩

/-- A source has the segments that it has with all partials, as long as those in them are selected,
and none otherwise. -/
theorem segments_selected_iff {scan : Scan} {segments : List Segment} :
    scan.segments config partials = .ok segments ↔
      scan.segments config others = .ok segments ∧ Segment.EmbedsAll good segments := by
  have whole {assembly : Assembly} (finished : assembly.finish = .ok segments) :
      assembly.Each (Segment.Embeds good) ↔ Segment.EmbedsAll good segments := by
    obtain ⟨closed, rfl⟩ := Assembly.finish_ok_iff.mp finished
    unfold Assembly.Each
    rw [closed, Segment.embeds_all_iff]
    simp
  rw [segments_ok_iff, segments_ok_iff]
  constructor
  · rintro ⟨complete, assembly, placed, finished⟩
    obtain ⟨placed, each⟩ := (place_all_selected_iff selects).mp ⟨placed, .empty⟩
    exact ⟨⟨complete, assembly, placed, finished⟩, (whole finished).mp each⟩
  · rintro ⟨⟨complete, assembly, placed, finished⟩, embeds⟩
    have each := (whole finished).mpr embeds
    exact ⟨complete, assembly, ((place_all_selected_iff selects).mpr ⟨placed, each⟩).1, finished⟩

end Selection

section Table

variable {config : Config} {table : List (String × String)}

theorem table_levels_more {fuel more : Nat} (enough : fuel ≤ more) {chain : List String}
    {source : Source} {segments : List Segment}
    (compiled : tableLevels config table fuel chain source = .ok segments) :
    tableLevels config table more chain source = .ok segments := by
  induction fuel generalizing more chain source segments with
  | zero => cases compiled
  | succ fuel induction =>
      obtain ⟨more, rfl⟩ := Nat.exists_eq_add_of_le' enough
      rw [← Nat.add_assoc] at *
      have kept (name : String) (body : List Segment)
          (included : tableInclude table (fun chain content =>
            tableLevels config table fuel chain (.text content)) chain name = .ok body) :
          tableInclude table (fun chain content =>
            tableLevels config table (more + fuel) chain (.text content)) chain name =
              .ok body := by
        obtain ⟨absent, content, found, inner⟩ := table_include_ok_iff.mp included
        exact table_include_ok_iff.mpr ⟨absent, content, found, induction (by omega) inner⟩
      rw [tableLevels] at compiled ⊢
      -- What can be included with fewer levels is a selection of what can be with more.
      exact ((segments_selected_iff fun name body =>
        ⟨fun included => ⟨kept name body included, included⟩, And.right⟩).mp compiled).1

/-- The outer ones of the names around a source decide whether it is compiled, but not to what. -/
theorem compiled_inside_iff {fuel : Nat} {outer inner : List String} {source : Source}
    {segments : List Segment} :
    tableLevels config table fuel (outer ++ inner) source = .ok segments ↔
      tableLevels config table fuel inner source = .ok segments ∧
        Segment.EverywhereAll (Segment.Partials fun name _ => name ∉ outer) segments := by
  induction fuel generalizing inner source segments with
  | zero => exact ⟨nofun, nofun⟩
  | succ fuel induction =>
      rw [Segment.everywhere_all_partials_iff, tableLevels, tableLevels]
      apply segments_selected_iff
      intro name body
      rw [table_include_ok_iff, table_include_ok_iff, List.append_assoc, List.mem_append, not_or]
      simp only [induction]
      constructor
      · rintro ⟨⟨outside, absent⟩, content, found, compiled, apart⟩
        exact ⟨⟨absent, content, found, compiled⟩, outside, apart⟩
      · rintro ⟨⟨absent, content, found, compiled⟩, outside, apart⟩
        exact ⟨⟨outside, absent⟩, content, found, compiled, apart⟩

/-- An embedded partial is what its text is compiled to inside of nothing. -/
theorem embedded_alone {fuel levels : Nat} (enough : fuel ≤ levels) {chain : List String}
    {source : Source} {segments : List Segment}
    (compiled : tableLevels config table fuel chain source = .ok segments) :
    Segment.EverywhereAll (Segment.Partials fun name body =>
      ∃ content, Loader.lookup? table name = some content ∧
        tableLevels config table levels [] (.text content) = .ok body) segments := by
  induction fuel generalizing chain source segments with
  | zero => cases compiled
  | succ fuel induction =>
      rw [Segment.everywhere_all_partials_iff]
      apply Segment.EmbedsAll.weaken _ (segments_supplied compiled)
      intro name body included
      obtain ⟨_, content, found, inner⟩ := table_include_ok_iff.mp included
      have whole := table_levels_more (by omega : fuel ≤ levels) inner
      rw [← List.append_nil (chain ++ [name])] at whole
      exact ⟨⟨content, found, (compiled_inside_iff.mp whole).1⟩, induction (by omega) inner⟩

end Table

/-- With a table of partials, a source compiles inside of others just if it compiles by itself and
includes none of them at any depth, and then it is the same template. So is an embedded partial the
template that its text is compiled to by itself. -/
theorem partials_around_only_refuse (options : Options) (identity : Nat)
    (table : List (String × String)) (chain : List String) (source : Source) :
    let config : Config := ⟨options, .ofTable identity table⟩
    ∀ template,
      ((config.runCompile chain source).1 = .ok template ↔
        (config.runCompile [] source).1 = .ok template ∧
          Segment.EverywhereAll (Segment.Partials fun name _ => name ∉ chain)
            template.segments) ∧
      ((config.runCompile chain source).1 = .ok template →
        Segment.EverywhereAll (Segment.Configs (· = config)) template.segments ∧
        Segment.EverywhereAll (Segment.Partials fun name body =>
          ∃ content, Loader.lookup? table name = some content ∧
            (config.runCompile [] (.text content)).1 = .ok ⟨body, config⟩) template.segments) := by
  intro config template
  have succeeds (chain : List String) (source : Source) (template : Template) :
      (config.runCompile chain source).1 = .ok template ↔
        ∃ segments, tableLevels config table (table.length + 1) chain source =
          .ok segments ∧ template = ⟨segments, config⟩ :=
    compile_ok_iff (@table_levels_yield identity table config rfl (table.length + 1) chain source)
  have inside (segments : List Segment) := @compiled_inside_iff config table
    (table.length + 1) chain [] source segments
  rw [List.append_nil] at inside
  constructor
  · rw [succeeds, succeeds]
    constructor
    · rintro ⟨segments, compiled, rfl⟩
      obtain ⟨alone, apart⟩ := (inside segments).mp compiled
      exact ⟨⟨segments, alone, rfl⟩, apart⟩
    · rintro ⟨⟨segments, alone, rfl⟩, apart⟩
      exact ⟨segments, (inside segments).mpr ⟨alone, apart⟩, rfl⟩
  · intro made
    refine ⟨(compiled_configured made).2, ?_⟩
    obtain ⟨segments, compiled, rfl⟩ := (succeeds chain source template).mp made
    simp only [succeeds, Template.mk.injEq, and_true, exists_eq_right']
    exact embedded_alone (Nat.le_refl _) compiled

/-- A page that is inside of something else is compiled the same, and not at all inside of a word
that it includes two levels down. -/
theorem page_is_refused_inside_of_its_word :
    let tag (content : String) : String := String.ofList (Delimiters.standard.tag content.toList)
    let table := [("page", tag "#all" ++ tag ">word" ++ tag "/all"), ("word", "x")]
    let config : Config := ⟨.standard, .ofTable 1 table⟩
    let root : Source := .text ("a" ++ tag ">page")
    ∃ template, (config.runCompile ["side"] root).1 = .ok template ∧
      (config.runCompile [] root).1 = .ok template ∧
      Segment.EverywhereAll (Segment.Partials fun name body =>
        ∃ content, Loader.lookup? table name = some content ∧
          (config.runCompile [] (.text content)).1 = .ok ⟨body, config⟩) template.segments ∧
      ¬ Segment.EverywhereAll (Segment.Partials fun name _ => name ∉ ["word"])
        template.segments := by
  intro tag table config root
  have succeeds : (config.runCompile ["side"] root).1.isOk = true := by decide +kernel
  have refused : (config.runCompile ["word"] root).1.isOk = false := by decide +kernel
  obtain ⟨template, made⟩ := except_of_is_ok succeeds
  obtain ⟨apart, embedded⟩ := partials_around_only_refuse .standard 1 table ["side"] root template
  have alone := (apart.mp made).1
  refine ⟨template, made, alone, (embedded made).2, ?_⟩
  intro without
  have inside := (partials_around_only_refuse .standard 1 table ["word"] root template).1
  rw [inside.mpr ⟨alone, without⟩] at refused
  cases refused

end Mustache
