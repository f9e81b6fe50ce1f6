import Mathlib.Logic.Relation
import Mustache.Proofs.Template.Printed
import Mustache.Proofs.Template.Table

/-!
Which tables of partials can be compiled. A source compiles just if it and all sources that can be
reached from it compile by themselves, no name is unknown, and no partial includes itself on any
way. The names around a source that is being compiled all lead to it, so one of them that is asked
for again closes a cycle, and a cycle that can be reached is met within it.
-/

namespace Mustache

set_option autoImplicit false

def Loader.blank : Loader := ⟨0, 1, fun _ _ => ⟨[], .ok (.text "")⟩⟩

def Source.ParsesAlone (options : Options) (source : Source) : Prop :=
  ∃ template, ((Config.mk options .blank).runCompile [] source).1 = .ok template

def Includes (table : List (String × String)) (name other : String) : Prop :=
  ∃ content, Loader.lookup? table name = some content ∧
    other ∈ (Source.text content).scan.partials

def Source.Reaches (table : List (String × String)) (source : Source) (name : String) : Prop :=
  ∃ first ∈ source.scan.partials, Relation.ReflTransGen (Includes table) first name

/-- Nothing that a source includes, however deep, stands in the way of compiling it. -/
structure Source.Includable (options : Options) (table : List (String × String))
    (source : Source) : Prop where
  alone : source.ParsesAlone options
  parts : ∀ name content, source.Reaches table name →
    Loader.lookup? table name = some content → (Source.text content).ParsesAlone options
  known : ∀ name, source.Reaches table name → name ∈ table.map (·.1)
  acyclic : ∀ name, source.Reaches table name → ¬ Relation.TransGen (Includes table) name name

theorem compile_ok_iff {config : Config} {chain : List String} {source : Source}
    {result : Except Fault (List Segment)} {template : Template}
    (yields : Yields (compileLevels config (config.loader.depth + 1) chain source) result) :
    (config.runCompile chain source).1 = .ok template ↔
      ∃ segments, result = .ok segments ∧ template = ⟨segments, config⟩ := by
  rw [run_compile_yields yields]
  cases result with
  | error fault => exact ⟨nofun, nofun⟩
  | ok segments =>
      constructor
      · intro same
        exact ⟨segments, rfl, (Except.ok.inj same).symm⟩
      · rintro ⟨_, ⟨⟩, rfl⟩
        rfl

theorem parses_alone_iff {options : Options} {source : Source} :
    source.ParsesAlone options ↔
      ∃ segments, source.scan.segments ⟨options, .blank⟩ (fun _ => .ok []) = .ok segments := by
  let config : Config := ⟨options, .blank⟩
  have empty (chain : List String) : Yields (compileLevels config 1 chain (.text "")) (.ok []) := by
    rw [compile_levels_succ]
    exact fun _ => rfl
  have included (name : String) :
      Yields (includeWith config.loader (compileLevels config 1) [] name) (.ok []) := by
    intro journal
    exact empty [name] _
  have yields : Yields (compileLevels config (config.loader.depth + 1) [] source)
      (source.scan.segments config fun _ => .ok []) := by
    rw [compile_levels_succ]
    exact compile_yields included source.scan
  constructor
  · rintro ⟨template, compiled⟩
    obtain ⟨segments, made, _⟩ := (compile_ok_iff yields).mp compiled
    exact ⟨segments, made⟩
  · rintro ⟨segments, made⟩
    exact ⟨⟨segments, config⟩, (compile_ok_iff yields).mpr ⟨segments, made, rfl⟩⟩

section Graph

variable {table : List (String × String)} {options : Options} {loader : Loader}

theorem Source.Reaches.of_includes {name content other : String}
    (found : Loader.lookup? table name = some content)
    (reaches : (Source.text content).Reaches table other) :
    Relation.TransGen (Includes table) name other := by
  obtain ⟨first, asked, rest⟩ := reaches
  exact .head' ⟨content, found, asked⟩ rest

theorem Source.Reaches.extend {source : Source} {name content other : String}
    (reaches : source.Reaches table name) (found : Loader.lookup? table name = some content)
    (further : (Source.text content).Reaches table other) : source.Reaches table other := by
  obtain ⟨first, asked, path⟩ := reaches
  exact ⟨first, asked, path.trans (Source.Reaches.of_includes found further).to_reflTransGen⟩

theorem Source.Includable.inner {source : Source} {name content : String}
    (includable : source.Includable options table) (reached : source.Reaches table name)
    (found : Loader.lookup? table name = some content) :
    (Source.text content).Includable options table where
  alone := includable.parts name content reached found
  parts other text reaches := includable.parts other text (reached.extend found reaches)
  known other reaches := includable.known other (reached.extend found reaches)
  acyclic other reaches := includable.acyclic other (reached.extend found reaches)

theorem reaches_of_trans_gen {name other : String}
    (path : Relation.TransGen (Includes table) name other) :
    ∃ content, Loader.lookup? table name = some content ∧
      (Source.text content).Reaches table other := by
  obtain ⟨first, ⟨content, found, asked⟩, rest⟩ := Relation.TransGen.head'_iff.mp path
  exact ⟨content, found, first, asked, rest⟩

/-- Every name that a compiled source reaches is new, known and compiled further inside. -/
theorem reached_is_compiled {fuel : Nat} {chain : List String} {source : Source}
    {segments : List Segment}
    (compiled : tableLevels ⟨options, loader⟩ table fuel chain source = .ok segments)
    {name : String} (reached : source.Reaches table name) :
    name ∉ chain ∧ ∃ content, Loader.lookup? table name = some content ∧
      (Source.text content).ParsesAlone options ∧
        ∃ deeper inner body, name ∈ inner ∧
          tableLevels ⟨options, loader⟩ table deeper inner (.text content) = .ok body := by
  induction fuel generalizing chain source segments with
  | zero => cases compiled
  | succ fuel induction =>
      obtain ⟨first, asked, path⟩ := reached
      obtain ⟨_, all⟩ := (table_levels_ok_iff ⟨options, .blank⟩).mp ⟨segments, compiled⟩
      obtain ⟨absent, content, found, body, within⟩ := all first asked
      rcases Relation.ReflTransGen.cases_head path with rfl | ⟨next, ⟨text, again, named⟩, rest⟩
      · refine ⟨absent, content, found, parses_alone_iff.mpr ?_, fuel, chain ++ [first], body,
          by simp, within⟩
        cases fuel with
        | zero => cases within
        | succ fuel => exact ((table_levels_ok_iff ⟨options, .blank⟩).mp ⟨body, within⟩).1
      · rw [found] at again
        cases again
        obtain ⟨outside, rest⟩ := induction within ⟨next, named, rest⟩
        exact ⟨fun inside => outside (List.mem_append_left _ inside), rest⟩

theorem reached_is_acyclic {fuel : Nat} {chain : List String} {source : Source}
    {segments : List Segment}
    (compiled : tableLevels ⟨options, loader⟩ table fuel chain source = .ok segments)
    {name : String} (reached : source.Reaches table name) :
    ¬ Relation.TransGen (Includes table) name name := by
  intro cycle
  obtain ⟨_, content, found, _, deeper, inner, body, inside, within⟩ :=
    reached_is_compiled compiled reached
  obtain ⟨text, again, back⟩ := reaches_of_trans_gen cycle
  rw [found] at again
  cases again
  -- Inside of itself the name would be reached a second time, where it is not new any more.
  exact (reached_is_compiled within back).1 inside

theorem compiles_of_acyclic (fuel : Nat) {outer inner : List String} {source : Source}
    (nested : Loader.Nested table inner) (enough : table.length < fuel + inner.length)
    (includable : source.Includable options table)
    (apart : ∀ name, source.Reaches table name → name ∉ outer)
    (leading : ∀ name ∈ inner, ∀ next ∈ source.scan.partials,
      Relation.TransGen (Includes table) name next) :
    ∃ segments,
      tableLevels ⟨options, loader⟩ table fuel (outer ++ inner) source = .ok segments := by
  induction fuel generalizing inner source with
  | zero =>
      -- So many names cannot be around the source: they are different and stand in the table.
      have bounded := nested.bounded
      omega
  | succ fuel induction =>
      refine (table_levels_ok_iff ⟨options, .blank⟩).mpr
        ⟨parses_alone_iff.mp includable.alone, fun name asked => ?_⟩
      have reached : source.Reaches table name := ⟨name, asked, .refl⟩
      -- A name that is already around the source leads to itself.
      have absent : name ∉ inner := fun inside =>
        includable.acyclic name reached (leading name inside name asked)
      obtain ⟨content, found⟩ := Loader.lookup_some_iff.mpr (includable.known name reached)
      have stillLeading : ∀ other ∈ inner ++ [name],
          ∀ next ∈ (Source.text content).scan.partials,
            Relation.TransGen (Includes table) other next := by
        intro other member next named
        have step : Includes table name next := ⟨content, found, named⟩
        rcases List.mem_append.mp member with inside | last
        · exact (leading other inside name asked).tail step
        · rw [List.mem_singleton.mp last]
          exact .single step
      have size : (inner ++ [name]).length = inner.length + 1 := List.length_append
      obtain ⟨body, compiled⟩ := induction (nested.further absent found) (by omega)
        (includable.inner reached found)
        (fun other reaches => apart other (reached.extend found reaches)) stillLeading
      refine ⟨?_, content, found, body, ?_⟩
      · exact List.not_mem_append (apart name reached) absent
      · rw [List.append_assoc]
        exact compiled

theorem nested_path_distinct {fuel : Nat} {chain : List String} {source : Source}
    {segments : List Segment}
    (compiled : tableLevels ⟨options, loader⟩ table fuel chain source = .ok segments)
    (distinct : chain.Nodup) {path : List String} (nested : Segment.NestedPath segments path) :
    (chain ++ path).Nodup := by
  induction fuel generalizing chain source segments path with
  | zero => cases compiled
  | succ fuel induction =>
      rcases nested.first (segments_supplied compiled) with
        rfl | ⟨name, body, rest, rfl, included, inner⟩
      · rwa [List.append_nil]
      · obtain ⟨absent, content, found, within⟩ := table_include_ok_iff.mp included
        have further : (chain ++ [name]).Nodup := by
          rw [← List.concat_eq_append]
          exact List.Nodup.concat absent distinct
        have deeper := induction within further inner
        rwa [List.append_assoc, List.singleton_append] at deeper

/-- Sources that ask for nothing else, but maybe more often and in other places. -/
theorem Source.Includable.rearranged {root other : Source} {replaced : List (String × String)}
    (includable : root.Includable options table) (alone : other.ParsesAlone options)
    (same : other.scan.partials ⊆ root.scan.partials)
    (parts : ∀ name content, root.Reaches table name → Loader.lookup? table name = some content →
      ∃ text, Loader.lookup? replaced name = some text ∧
        (Source.text text).ParsesAlone options ∧
          (Source.text text).scan.partials ⊆ (Source.text content).scan.partials) :
    other.Includable options replaced := by
  have step {name next : String} (reached : root.Reaches table name)
      (includes : Includes replaced name next) : Includes table name next := by
    obtain ⟨content, found⟩ := Loader.lookup_some_iff.mpr (includable.known name reached)
    obtain ⟨text, again, _, fewer⟩ := parts name content reached found
    obtain ⟨_, given, asked⟩ := includes
    rw [again] at given
    cases given
    exact ⟨content, found, fewer asked⟩
  have further {name next : String} (reached : root.Reaches table name)
      (includes : Includes table name next) : root.Reaches table next := by
    obtain ⟨first, asked, path⟩ := reached
    exact ⟨first, asked, path.tail includes⟩
  have reaches {name : String} (reached : other.Reaches replaced name) :
      root.Reaches table name := by
    obtain ⟨first, asked, path⟩ := reached
    induction path with
    | refl => exact ⟨first, same asked, .refl⟩
    | tail _ last induction => exact further induction (step induction last)
  have path {name next : String} (reached : root.Reaches table name)
      (way : Relation.TransGen (Includes replaced) name next) :
      Relation.TransGen (Includes table) name next ∧ root.Reaches table next := by
    induction way with
    | single last => exact ⟨.single (step reached last), further reached (step reached last)⟩
    | tail _ last induction =>
        obtain ⟨before, middle⟩ := induction
        exact ⟨before.tail (step middle last), further middle (step middle last)⟩
  constructor
  · exact alone
  · intro name text reached given
    obtain ⟨content, found⟩ :=
      Loader.lookup_some_iff.mpr (includable.known name (reaches reached))
    obtain ⟨_, again, parses, _⟩ := parts name content (reaches reached) found
    rw [given] at again
    cases again
    exact parses
  · intro name reached
    obtain ⟨content, found⟩ :=
      Loader.lookup_some_iff.mpr (includable.known name (reaches reached))
    obtain ⟨text, again, _⟩ := parts name content (reaches reached) found
    exact Loader.lookup_some_iff.mp ⟨text, again⟩
  · intro name reached cycle
    exact includable.acyclic name (reaches reached) (path (reaches reached) cycle).1

/-- A source compiles with a table just if it is includable. -/
theorem compiles_iff_includable {identity : Nat} {root : Source} :
    (∃ template, ((Config.mk options (.ofTable identity table)).runCompile [] root).1 =
        .ok template) ↔ root.Includable options table := by
  let config : Config := ⟨options, .ofTable identity table⟩
  have loads : config.loader = .ofTable identity table := rfl
  have yields := table_levels_yield loads (config.loader.depth + 1) [] root
  constructor
  · rintro ⟨template, succeeds⟩
    obtain ⟨segments, compiled, _⟩ := (compile_ok_iff yields).mp succeeds
    refine ⟨?_, ?_, ?_, fun name => reached_is_acyclic compiled⟩
    · exact parses_alone_iff.mpr ((table_levels_ok_iff ⟨options, .blank⟩).mp ⟨segments, compiled⟩).1
    · intro name content reached found
      obtain ⟨_, text, again, parses, _⟩ := reached_is_compiled compiled reached
      rw [found] at again
      cases again
      exact parses
    · intro name reached
      obtain ⟨_, content, found, _⟩ := reached_is_compiled compiled reached
      exact Loader.lookup_some_iff.mp ⟨content, found⟩
  · intro includable
    have succeeds : ∃ segments, tableLevels config table (table.length + 1) ([] ++ [])
        root = .ok segments :=
      compiles_of_acyclic (table.length + 1) .none (by omega) includable
        (fun _ _ => List.not_mem_nil) nofun
    obtain ⟨segments, compiled⟩ := succeeds
    exact ⟨⟨segments, config⟩, (compile_ok_iff yields).mpr ⟨segments, compiled, rfl⟩⟩

end Graph

/-- Compiling with a table of partials ends: it never gets to a level further inside than the table
has names. It succeeds unless something that is included does not parse, is unknown or includes
itself. Then no partial is nested in itself, and how often and where a partial is included does not
matter. -/
theorem inclusion_ends_and_only_cycles_are_refused (options : Options) (identity : Nat)
    (table : List (String × String)) (root : Source) :
    let config : Config := ⟨options, .ofTable identity table⟩
    (∀ bottom levels, table.length < levels →
      compileOver config bottom levels [] root =
        compileLevels config (config.loader.depth + 1) [] root) ∧
    ((∃ template, (config.runCompile [] root).1 = .ok template) ↔
      root.ParsesAlone options ∧
      (∀ name content, root.Reaches table name → Loader.lookup? table name = some content →
        (Source.text content).ParsesAlone options) ∧
      (∀ name, root.Reaches table name → name ∈ table.map (·.1)) ∧
      ∀ name, root.Reaches table name → ¬ Relation.TransGen (Includes table) name name) ∧
    (∀ template, (config.runCompile [] root).1 = .ok template →
      ∀ path, Segment.NestedPath template.segments path → path.Nodup) ∧
    ∀ (other : Source) (replaced : List (String × String)),
      (∃ template, (config.runCompile [] root).1 = .ok template) →
      other.ParsesAlone options → other.scan.partials ⊆ root.scan.partials →
      (∀ name content, root.Reaches table name → Loader.lookup? table name = some content →
        ∃ text, Loader.lookup? replaced name = some text ∧
          (Source.text text).ParsesAlone options ∧
            (Source.text text).scan.partials ⊆ (Source.text content).scan.partials) →
      ∃ template,
        ((Config.mk options (.ofTable identity replaced)).runCompile [] other).1 =
          .ok template := by
  intro config
  refine ⟨?_, ?_, ?_, ?_⟩
  · intro bottom levels enough
    rw [compile_levels_eq_over]
    exact compile_over_steady rfl bottom _ [] levels _ [] .none (by simpa using enough)
      (Nat.lt_succ_self table.length) root
  · refine compiles_iff_includable.trans ⟨?_, ?_⟩
    · rintro ⟨alone, parts, known, acyclic⟩
      exact ⟨alone, parts, known, acyclic⟩
    · rintro ⟨alone, parts, known, acyclic⟩
      exact ⟨alone, parts, known, acyclic⟩
  · intro template succeeds path nested
    have loads : config.loader = .ofTable identity table := rfl
    have yields := table_levels_yield loads (config.loader.depth + 1) [] root
    obtain ⟨segments, compiled, rfl⟩ := (compile_ok_iff yields).mp succeeds
    exact nested_path_distinct compiled List.nodup_nil nested
  · intro other replaced succeeds alone same parts
    have includable := compiles_iff_includable.mp succeeds
    exact compiles_iff_includable.mpr (includable.rearranged alone same parts)

theorem shared_partial_compiles :
    let tag (content : String) : String := String.ofList (Delimiters.standard.tag content.toList)
    let table := [("page", tag ">word" ++ " and " ++ tag ">word"), ("word", tag "x")]
    let config : Config := ⟨.standard, .ofTable 1 table⟩
    let root : Source := .text (tag "#all" ++ tag ">page" ++ tag "/all" ++ tag ">word")
    (∃ template, (config.runCompile [] root).1 = .ok template ∧
      ∀ path, Segment.NestedPath template.segments path → path.Nodup) ∧
    ∀ name, root.Reaches table name → ¬ Relation.TransGen (Includes table) name name := by
  intro tag table config root
  have succeeds : (config.runCompile [] root).1.isOk = true := by decide +kernel
  have compiled : ∃ template, (config.runCompile [] root).1 = .ok template := by
    cases outcome : (config.runCompile [] root).1 with
    | ok template => exact ⟨template, rfl⟩
    | error fault =>
        rw [outcome] at succeeds
        cases succeeds
  obtain ⟨_, conditions, distinct, _⟩ :=
    inclusion_ends_and_only_cycles_are_refused .standard 1 table root
  obtain ⟨template, same⟩ := compiled
  exact ⟨⟨template, same, distinct template same⟩, (conditions.mp ⟨template, same⟩).2.2.2⟩

end Mustache
