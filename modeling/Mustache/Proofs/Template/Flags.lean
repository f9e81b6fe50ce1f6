import Mustache.Proofs.Template.Delivery

/-!
What all segments of a template have in common, at any depth. Texts, sections and partials have it
from the config, and interpolations as their tags ask for it. So a tag that asks for raw output makes
an interpolation without escaping, every other one follows the option, and all partials have been
compiled with the config of the whole.
-/

namespace Mustache

set_option autoImplicit false

structure Segment.Granted (holds : Segment → Prop) (config : Config) : Prop where
  text (content : String) : holds (.text content)
  block (inverted : Bool) (name : String) (line : Nat) (body : List Segment) :
    holds (.block inverted name line body)
  included (name : String) (body : List Segment) : holds (.included name config body)

def Token.Grants (holds : Segment → Prop) (config : Config) : Token → Prop
  | .tag (.interpolation name raw) line =>
      holds (.interpolation name (if raw then .bool false else config.options.escapeHtml) line)
  | _ => True

abbrev Assembly.All (holds : Segment → Prop) (assembly : Assembly) : Prop :=
  assembly.Each fun segment => segment.Everywhere holds

variable {loader : Loader} {fine : Source → Prop} {holds : Segment → Prop} {config : Config}
  {includePartial : String → Compile (List Segment)}

section Included

variable (granted : Segment.Granted holds config) (included : ∀ name,
  Obtains loader fine (includePartial name) (Segment.EverywhereAll holds))
include granted included

theorem place_granted (assembly : Assembly) (token : Token) :
    Obtains loader fine (placeToken config includePartial assembly token)
      fun next => token.Grants holds config → assembly.All holds → next.All holds := by
  cases token with
  | text content => exact .of_pure fun _ before => before.add (granted.text content)
  | tag tag line =>
      cases tag with
      | interpolation name raw => exact .of_pure fun grants before => before.add grants
      | opening inverted name => exact .of_pure fun _ before => before.openBlock inverted name line
      | closing name =>
          apply Obtains.of_lift_parse
          intro next closed _ before
          have placed : assembly.place config (fun _ => .ok [])
              (.tag (.closing name) line) = .ok next := by
            change (assembly.closeBlock name line).mapError Fault.parse = _
            rw [closed]
            rfl
          apply before.close _ placed
          intro inverted name line body inner
          exact ⟨granted.block inverted name line body,
            (Segment.everywhere_all_iff _ body).mpr inner⟩
      | inclusion name =>
          apply Obtains.of_bind (included name)
          intro body
          apply Obtains.of_pure
          intro inner _ before
          exact before.add ⟨granted.included name body, inner⟩
      | comment => exact .of_pure fun _ before => before
      | directive delimiters => exact .of_pure fun _ before => before

theorem assemble_granted (assembly : Assembly) (tokens : List Token) :
    Obtains loader fine (assemble config includePartial assembly tokens)
      fun next => (∀ token ∈ tokens, token.Grants holds config) →
        assembly.All holds → next.All holds := by
  induction tokens generalizing assembly with
  | nil => exact .of_pure fun _ before => before
  | cons token tokens induction =>
      apply Obtains.of_bind (place_granted granted included assembly token)
      intro next
      apply (induction next).weaken
      intro last later placed grants before
      exact later (fun token member => grants token (List.mem_cons_of_mem _ member))
        (placed (grants token List.mem_cons_self) before)

theorem compile_granted (scan : Scan) :
    Obtains loader fine (scan.compile config includePartial)
      fun segments => (∀ token ∈ scan.tokens, token.Grants holds config) →
        Segment.EverywhereAll holds segments := by
  have placed : Obtains loader fine (assemble config includePartial .empty scan.tokens) _ :=
    assemble_granted granted included .empty scan.tokens
  apply Obtains.of_bind placed
  intro assembly
  cases scan.failure with
  | some fault => exact .of_throw fault
  | none =>
      have finished : Obtains loader fine (liftParse assembly.finish) fun segments =>
          assembly.All holds → Segment.EverywhereAll holds segments := by
        apply Obtains.of_lift_parse
        intro segments finished whole
        exact (Segment.everywhere_all_iff _ segments).mpr (whole.finish finished)
      apply Obtains.of_bind finished
      intro segments
      apply Obtains.of_first (.of_record _)
      intro _
      exact .of_pure fun finished assembled grants => finished (assembled grants .empty)

end Included

theorem compile_levels_granted {config : Config} (granted : Segment.Granted holds config)
    (flagged : ∀ name line, holds (.interpolation name (.bool false) line) ∧
      holds (.interpolation name config.options.escapeHtml line))
    (fuel : Nat) (chain : List String) (source : Source) :
    Obtains config.loader fine (compileLevels config fuel chain source)
      (Segment.EverywhereAll holds) := by
  induction fuel generalizing chain source with
  | zero => exact .of_throw _
  | succ fuel induction =>
      rw [compile_levels_succ]
      have included := Obtains.of_include fun chain source =>
        (induction chain source).weaken fun segments all (_ : fine source) => all
      apply (compile_granted granted (included chain) source.scan).weaken
      intro segments compiled
      apply compiled
      intro token _
      match token with
      | .tag (.interpolation name true) line => exact (flagged name line).1
      | .tag (.interpolation name false) line => exact (flagged name line).2
      | .text _ | .tag (.opening _ _) _ | .tag (.closing _) _ | .tag (.inclusion _) _
      | .tag .comment _ | .tag (.directive _) _ => trivial

theorem compiled_granted {config : Config} {chain : List String} {source : Source}
    {template : Template} (compiled : (config.runCompile chain source).1 = .ok template)
    (granted : Segment.Granted holds config)
    (flagged : ∀ name line, holds (.interpolation name (.bool false) line) ∧
      holds (.interpolation name config.options.escapeHtml line)) :
    template.config = config ∧ Segment.EverywhereAll holds template.segments := by
  have obtained : Obtains config.loader (fun _ => True)
      (compileLevels config (config.loader.depth + 1) chain source)
      (Segment.EverywhereAll holds) :=
    compile_levels_granted granted flagged _ chain source
  rcases run : (compileLevels config (config.loader.depth + 1) chain source).run [] with
    ⟨outcome, traffic⟩
  rw [run_compile_levels, run] at compiled
  cases outcome with
  | error fault => cases compiled
  | ok segments =>
      cases compiled
      exact ⟨rfl, (obtained _ _ _ run).2 fun _ _ => trivial⟩

/-- A template keeps the config that it was compiled with, and what it holds for flags and for
options are those of the config, or off. -/
theorem compiled_flags {property : Value → Prop} {config : Config} {chain : List String}
    {source : Source} {template : Template}
    (compiled : (config.runCompile chain source).1 = .ok template)
    (raw : property (.bool false)) (options : config.options.Each property) :
    template.config = config ∧
      Segment.EverywhereAll (Segment.Flag property) template.segments :=
  compiled_granted compiled ⟨fun _ => trivial, fun _ _ _ _ => trivial, fun _ _ => options⟩
    fun _ _ => ⟨raw, options.1⟩

theorem compiled_configured {config : Config} {chain : List String} {source : Source}
    {template : Template} (compiled : (config.runCompile chain source).1 = .ok template) :
    template.config = config ∧
      Segment.EverywhereAll (Segment.Configs (· = config)) template.segments :=
  compiled_granted compiled ⟨fun _ => trivial, fun _ _ _ _ => trivial, fun _ _ => rfl⟩
    fun _ _ => ⟨trivial, trivial⟩

theorem granted_escapes (config : Config) : Segment.Granted Segment.Escapes config :=
  ⟨fun _ => trivial, fun _ _ _ _ => trivial, fun _ _ => trivial⟩

theorem source_escapes (escaping : config.options.escapeHtml = .bool true)
    (included : ∀ name,
      Obtains loader fine (includePartial name) (Segment.EverywhereAll Segment.Escapes))
    (source : Source) :
    Obtains loader fine (source.scan.compile config includePartial)
      fun segments => source.Cautious → Segment.EverywhereAll Segment.Escapes segments := by
  cases failed : source.scan.failure with
  | some fault =>
      unfold Scan.compile
      rw [failed]
      have kept : Obtains loader fine
          (assemble config includePartial .empty source.scan.tokens) fun _ => True :=
        (assemble_granted (granted_escapes config) included .empty source.scan.tokens).weaken
          fun _ _ => trivial
      exact .of_first kept fun _ => .of_throw fault
  | none =>
      rw [scan_of_characters failed, compile_settled, scan_settled, String.toList_ofList]
      apply (compile_granted (granted_escapes config) included _).weaken
      intro segments compiled cautious
      apply compiled
      intro token member
      match token with
      | .tag (.interpolation name true) line => exact absurd (cautious.not_raw member) nofun
      | .tag (.interpolation name false) line => exact escaping
      | .text _ | .tag (.opening _ _) _ | .tag (.closing _) _ | .tag (.inclusion _) _
      | .tag .comment _ | .tag (.directive _) _ => trivial

theorem compile_levels_escapes {config : Config} (escaping : config.options.escapeHtml = .bool true)
    (fuel : Nat) (chain : List String) (source : Source) :
    Obtains config.loader Source.Cautious (compileLevels config fuel chain source)
      fun segments => source.Cautious → Segment.EverywhereAll Segment.Escapes segments := by
  induction fuel generalizing chain source with
  | zero => exact .of_throw _
  | succ fuel induction =>
      rw [compile_levels_succ]
      apply source_escapes escaping
      intro name
      exact .of_include induction chain name

end Mustache
