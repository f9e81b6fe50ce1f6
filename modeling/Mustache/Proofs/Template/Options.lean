import Mustache.Proofs.Template.Lines
import Mustache.Proofs.Template.Recast

/-!
What the options of a config do to compiling. They reach no decision of it: with the same loader
there is one run for all options, which fails or succeeds for all of them and asks for the same
partials. The trees of two options differ in what their interpolations carry, and only where a tag
does not ask for raw output, and in the config that their partials have for their own.
-/

namespace Mustache

set_option autoImplicit false

/-- An option where escaping is on, and what is there otherwise. -/
def Value.optional (option : Value) : Value → Value
  | .bool true => option
  | flag => flag

/-- The segments as a config makes them: its option is in all places where they escape, and their
partials have the config for their own. -/
def Segment.carryingAll (config : Config) : List Segment → List Segment :=
  recastAll config.options.escapeHtml.optional fun _ => config

theorem Mirrors.of_same {σ α : Type} (action : Action σ α) : Mirrors Eq id action action := by
  rintro state _ rfl
  exact ⟨(congrFun Except.map_id _).symm, rfl⟩

theorem Mirrors.of_then_close {α α' : Type} {image : α → α'} {action : Compile α}
    {other : Compile α'} (mirrors : Mirrors Eq image action other) (request : Nat)
    (failure : Option Fault) :
    Mirrors Eq image (thenClose action request failure) (thenClose other request failure) := by
  rintro journal _ rfl
  obtain ⟨same, kept⟩ := mirrors journal journal rfl
  rw [then_close_run, then_close_run]
  refine ⟨?_, congrArg (· ++ [.closed request]) kept⟩
  cases failure with
  | none => exact same
  | some fault => rfl

theorem include_carrying {config : Config} {loader : Loader}
    {compile compileOther : List String → Source → Compile (List Segment)}
    (inner : ∀ chain source,
      Mirrors Eq (Segment.carryingAll config) (compile chain source) (compileOther chain source))
    (chain : List String) (name : String) :
    Mirrors Eq (Segment.carryingAll config) (includeWith loader compile chain name)
      (includeWith loader compileOther chain name) := by
  unfold includeWith
  dsimp only
  split
  · exact .of_throw _
  · apply Mirrors.of_get
    rintro journal _ rfl
    apply Mirrors.of_bind (Mirrors.of_same (request loader name))
    intro source
    have told (event : Event) := Mirrors.of_same (record event)
    cases source with
    | text content => exact .of_bind (told _) fun _ => inner _ _
    | stream pieces failure closing =>
        apply Mirrors.of_bind (told _)
        intro _
        exact .of_bind (told _) fun _ => .of_then_close (inner _ _) _ closing

theorem compile_levels_carrying (options : Options) (loader : Loader) (fuel : Nat)
    (chain : List String) (source : Source) :
    Mirrors Eq (Segment.carryingAll ⟨options, loader⟩)
      (compileLevels ⟨.standard, loader⟩ fuel chain source)
      (compileLevels ⟨options, loader⟩ fuel chain source) := by
  induction fuel generalizing chain source with
  | zero => exact .of_throw _
  | succ fuel induction =>
      rw [compile_levels_succ, compile_levels_succ]
      exact compile_recast rfl rfl rfl (include_carrying induction chain)
        (fun count => .of_same (record (.compiled count))) source.scan

theorem run_compile_carrying (loader : Loader) (chain : List String) (source : Source) :
    ∃ (result : Except Fault (List Segment)) (journal : Journal), ∀ options,
      (Config.mk options loader).runCompile chain source =
        (result.map fun segments =>
          ⟨Segment.carryingAll ⟨options, loader⟩ segments, ⟨options, loader⟩⟩, journal) := by
  let run := (compileLevels ⟨.standard, loader⟩ (loader.depth + 1) chain source).run []
  refine ⟨run.1, run.2, ?_⟩
  intro options
  obtain ⟨same, kept⟩ :=
    compile_levels_carrying options loader (loader.depth + 1) chain source [] [] rfl
  rw [run_compile_levels]
  dsimp only
  rw [same, ← kept]
  dsimp only [run]
  cases ((compileLevels ⟨.standard, loader⟩ (loader.depth + 1) chain source).run []).1 <;> rfl

/-- Only tags that ask for raw output make interpolations that do not carry the option. -/
theorem compiled_becomes {config : Config} {chain : List String} {source : Source}
    {template : Template} (compiled : (config.runCompile chain source).1 = .ok template) :
    source.Becomes config template.segments ∧
      (config.runCompile chain source).2.Embedded config template.segments := by
  obtain ⟨_, foretold⟩ := compile_levels_foretell config (config.runCompile chain source).2 source
    (config.loader.depth + 1) chain source []
  rw [run_compile_levels] at compiled foretold ⊢
  have ends := foretold List.prefix_rfl (.inl rfl)
  cases result : ((compileLevels config (config.loader.depth + 1) chain source).run []).1 with
  | error fault =>
      rw [result] at compiled
      cases compiled
  | ok segments =>
      rw [result] at compiled ends
      cases compiled
      exact ends

end Mustache
