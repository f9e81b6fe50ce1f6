import Mathlib.Data.List.Nodup
import Mathlib.Data.List.Perm.Subperm
import Mustache.Proofs.Template.Delivery
import Mustache.Proofs.Template.Shape

/-!
Compiling with a table of partials. Here the journal decides nothing, and no more levels of partials
are ever nested than the table has names, whatever the sources in it are: the names on the way
inwards are different, and all of them are in the table.
-/

namespace Mustache

set_option autoImplicit false

namespace Loader

theorem lookup_some_iff {table : List (String × String)} {name : String} :
    (∃ content, lookup? table name = some content) ↔ name ∈ table.map (·.1) := by
  unfold lookup?
  constructor
  · rintro ⟨content, found⟩
    obtain ⟨entry, first, _⟩ := Option.map_eq_some_iff.mp found
    have named : entry.1 = name := by simpa using List.find?_some first
    exact List.mem_map.mpr ⟨entry, List.mem_of_find?_eq_some first, named⟩
  · intro member
    obtain ⟨entry, inside, named⟩ := List.mem_map.mp member
    have found : (table.find? (·.1 == name)).isSome = true :=
      List.find?_isSome.mpr ⟨entry, inside, by simpa using named⟩
    obtain ⟨first, same⟩ := Option.isSome_iff_exists.mp found
    exact ⟨first.2, by rw [same]; rfl⟩

structure Nested (table : List (String × String)) (names : List String) : Prop where
  distinct : names.Nodup
  known : ∀ name ∈ names, name ∈ table.map (·.1)

namespace Nested

variable {table : List (String × String)} {names : List String}

theorem none : Nested table [] := ⟨List.nodup_nil, nofun⟩

/-- There is no room for more different names than the table has entries. -/
theorem bounded (nested : Nested table names) : names.length ≤ table.length := by
  have bound := (List.subperm_of_subset nested.distinct nested.known).length_le
  rwa [List.length_map] at bound

theorem further (nested : Nested table names) {name content : String} (absent : name ∉ names)
    (found : lookup? table name = some content) : Nested table (names ++ [name]) := by
  constructor
  · rw [← List.concat_eq_append]
    exact List.Nodup.concat absent nested.distinct
  · intro other member
    rcases List.mem_append.mp member with inside | last
    · exact nested.known other inside
    · rw [List.mem_singleton.mp last]
      exact lookup_some_iff.mp ⟨content, found⟩

end Nested

end Loader

def tableInclude (table : List (String × String))
    (compile : List String → String → Except Fault (List Segment)) (chain : List String)
    (name : String) : Except Fault (List Segment) :=
  if chain.contains name then .error (.load (.circular (chain ++ [name])) (some name))
  else
    match Loader.lookup? table name with
    | some content => compile (chain ++ [name]) content
    | none => .error (.load (.unknownName name) (some name))

/-- What compiling a source comes to with so many levels of partials. -/
def tableLevels (config : Config) (table : List (String × String)) :
    (fuel : Nat) → (chain : List String) → Source → Except Fault (List Segment)
  | 0, _, _ => .error (.load .tooDeep none)
  | fuel + 1, chain, source =>
      source.scan.segments config
        (tableInclude table (fun chain content => tableLevels config table fuel chain
          (.text content)) chain)

section Table

variable {identity : Nat} {table : List (String × String)}

theorem include_of_table (compile : List String → Source → Compile (List Segment))
    (chain : List String) (name : String) :
    includeWith (.ofTable identity table) compile chain name =
      if chain.contains name then throw (.load (.circular (chain ++ [name])) (some name))
      else
        match Loader.lookup? table name with
        | some content =>
            record (.asked name) >>= fun _ => record (.compiling name) >>= fun _ =>
              compile (chain ++ [name]) (.text content)
        | none =>
            record (.asked name) >>= fun _ => throw (.load (.unknownName name) (some name)) := by
  unfold includeWith
  dsimp only
  by_cases circular : chain.contains name = true
  · rw [if_pos circular, if_pos circular]
  · rw [if_neg circular, if_neg circular]
    apply Action.same_of_runs
    intro journal
    have looked : (get : Compile Journal).run journal = (.ok journal, journal) := rfl
    have asked : (record (.asked name)).run journal = (.ok (), journal ++ [.asked name]) := rfl
    rw [Action.run_bind_ok looked]
    have replied := request_run (.ofTable identity table) name journal
    unfold Loader.ofTable at *
    dsimp only at *
    cases found : Loader.lookup? table name with
    | none =>
        rw [found] at replied
        rw [Action.run_bind_error replied, Action.run_bind_ok asked]
        rfl
    | some content =>
        rw [found] at replied
        rw [Action.run_bind_ok replied, Action.run_bind_ok asked]
        rfl

theorem table_include_yields {loader : Loader} (loads : loader = .ofTable identity table)
    {compile : List String → Source → Compile (List Segment)}
    {compiled : List String → String → Except Fault (List Segment)}
    (inner : ∀ chain content, Yields (compile chain (.text content)) (compiled chain content))
    (chain : List String) (name : String) :
    Yields (includeWith loader compile chain name) (tableInclude table compiled chain name) := by
  rw [loads, include_of_table]
  unfold tableInclude
  split
  · exact .of_throw _
  · split
    · exact .of_record _ (.of_record _ (inner _ _))
    · exact .of_record _ (.of_throw _)

theorem table_levels_yield {config : Config} (loads : config.loader = .ofTable identity table)
    (fuel : Nat) (chain : List String) (source : Source) :
    Yields (compileLevels config fuel chain source)
      (tableLevels config table fuel chain source) := by
  induction fuel generalizing chain source with
  | zero => exact .of_throw _
  | succ fuel induction =>
      rw [compile_levels_succ]
      exact compile_yields (table_include_yields loads (fun _ _ => induction _ _) chain) source.scan

theorem table_include_ok_iff {compile : List String → String → Except Fault (List Segment)}
    {chain : List String} {name : String} {body : List Segment} :
    tableInclude table compile chain name = .ok body ↔
      name ∉ chain ∧ ∃ content, Loader.lookup? table name = some content ∧
        compile (chain ++ [name]) content = .ok body := by
  unfold tableInclude
  by_cases inside : name ∈ chain
  · rw [if_pos (List.contains_iff_mem.mpr inside)]
    exact ⟨nofun, fun ⟨outside, _⟩ => absurd inside outside⟩
  · rw [if_neg (by simpa using inside)]
    cases Loader.lookup? table name with
    | none => exact ⟨nofun, nofun⟩
    | some content =>
        constructor
        · intro compiled
          exact ⟨inside, content, rfl, compiled⟩
        · rintro ⟨_, _, ⟨⟩, compiled⟩
          exact compiled

/-- One level compiles if the source does by itself, and all the partials that it names are new,
known and compile one level further inside. -/
theorem table_levels_ok_iff (other : Config) {config : Config} {fuel : Nat} {chain : List String}
    {source : Source} :
    (∃ segments, tableLevels config table (fuel + 1) chain source = .ok segments) ↔
      (∃ segments, source.scan.segments other (fun _ => .ok []) = .ok segments) ∧
        ∀ name ∈ source.scan.partials, name ∉ chain ∧
          ∃ content, Loader.lookup? table name = some content ∧
            ∃ body, tableLevels config table fuel (chain ++ [name]) (.text content) =
              .ok body := by
  rw [tableLevels, @has_segments_iff config other]
  apply and_congr_right
  intro _
  apply forall₂_congr
  intro name _
  constructor
  · rintro ⟨body, included⟩
    obtain ⟨absent, content, found, compiled⟩ := table_include_ok_iff.mp included
    exact ⟨absent, content, found, body, compiled⟩
  · rintro ⟨absent, content, found, body, compiled⟩
    exact ⟨body, table_include_ok_iff.mpr ⟨absent, content, found, compiled⟩⟩

end Table

/-- Compiling with anything at all in place of the innermost level. -/
def compileOver (config : Config) (bottom : List String → Source → Compile (List Segment)) :
    (levels : Nat) → List String → Source → Compile (List Segment)
  | 0 => bottom
  | levels + 1 => fun chain source =>
      source.scan.compile config
        (includeWith config.loader (compileOver config bottom levels) chain)

theorem compile_levels_eq_over (config : Config) (fuel : Nat) :
    compileLevels config fuel =
      compileOver config (fun _ _ => throw (.load .tooDeep none)) fuel := by
  induction fuel with
  | zero => rfl
  | succ fuel induction =>
      funext chain source
      rw [compile_levels_succ, induction]
      rfl

/-- The innermost level is never reached: with enough levels it does not matter how many there are
nor what the innermost one would do. -/
theorem compile_over_steady {config : Config} {identity : Nat} {table : List (String × String)}
    (loads : config.loader = .ofTable identity table)
    (bottom other : List String → Source → Compile (List Segment)) (outer : List String)
    (levels more : Nat) (inner : List String) (nested : Loader.Nested table inner)
    (enough : table.length < levels + inner.length) (enough' : table.length < more + inner.length)
    (source : Source) :
    compileOver config bottom levels (outer ++ inner) source =
      compileOver config other more (outer ++ inner) source := by
  induction levels generalizing more inner source with
  | zero =>
      have bounded := nested.bounded
      omega
  | succ levels induction =>
      cases more with
      | zero =>
          have bounded := nested.bounded
          omega
      | succ more =>
          unfold compileOver
          apply congrArg (source.scan.compile config)
          funext name
          rw [loads, include_of_table, include_of_table]
          by_cases circular : (outer ++ inner).contains name = true
          · rw [if_pos circular, if_pos circular]
          · rw [if_neg circular, if_neg circular]
            cases found : Loader.lookup? table name with
            | none => rfl
            | some content =>
                have absent : name ∉ inner := fun inside =>
                  circular (by simp [inside])
                have size : (inner ++ [name]).length = inner.length + 1 := List.length_append
                have deeper := induction more (inner ++ [name]) (nested.further absent found)
                  (by omega) (by omega) (.text content)
                simp only [← List.append_assoc] at deeper
                simp only [deeper]

end Mustache
