import Mustache.Proofs.Template.Recast
import Mustache.Proofs.Template.Traffic

/-!
Sources that come in pieces. Wherever a source is cut, be it inside of a marker, in front of a third
brace or of a newline that is dropped, and wherever the sources of partials are cut, compiling comes
to the same segments or the same fault, and asks for the same partials on the way. Each partial has
the config that it was compiled with, and in that the loader that it came from.
-/

namespace Mustache

set_option autoImplicit false

/-- The source delivers this text, and then it ends or fails. It may deliver the text whole, or in
pieces none of which is empty, and closing it may fail. -/
inductive Source.Reads (content : String) : Option Fault → Source → Prop where
  | whole : Reads content none (.text content)
  | pieces {pieces : List String} {failure closing : Option Fault}
      (filled : ∀ piece ∈ pieces, piece ≠ "") (joined : String.join pieces = content) :
      Reads content failure (.stream pieces failure closing)

/-- Both are refused alike, or both are sources of one text that are closed alike. -/
inductive Recut : Except Fault Source → Except Fault Source → Prop where
  | refused (fault : Fault) : Recut (.error fault) (.error fault)
  | delivered {content : String} {failure : Option Fault} {source other : Source}
      (reads : source.Reads content failure) (reads' : other.Reads content failure)
      (closed : other.closeFailure = source.closeFailure) : Recut (.ok source) (.ok other)

structure Loader.Recuts (loader other : Loader) : Prop where
  depth : other.depth = loader.depth
  replies : ∀ earlier name,
    Recut (loader.reply earlier name).result (other.reply earlier name).result

namespace Source.Reads

variable {content : String} {failure : Option Fault} {source other : Source}

theorem characters (reads : source.Reads content failure) :
    source.characters = content.toList := by
  cases reads with
  | whole => rfl
  | @pieces pieces failure closing filled joined =>
      have all : pieces.takeWhile (!·.isEmpty) = pieces := by
        apply List.takeWhile_eq_self_iff.mpr
        intro piece member
        simpa using filled piece member
      rw [Source.characters, all, ← joined, String.toList_join]

theorem read_failure (reads : source.Reads content failure) : source.readFailure = failure := by
  cases reads <;> rfl

theorem same_scan (reads : source.Reads content failure) (reads' : other.Reads content failure) :
    other.scan = source.scan :=
  scan_congr (reads'.characters.trans reads.characters.symm)
    (reads'.read_failure.trans reads.read_failure.symm)

end Source.Reads

def Journal.AsksLike (journal other : Journal) : Prop := other.asked = journal.asked

section Compiling

variable {loader other : Loader} {config : Config}

theorem include_mirrors (recuts : loader.Recuts other)
    {compile compile' : List String → Source → Compile (List Segment)}
    (inner : ∀ chain {content failure source source'}, source.Reads content failure →
      source'.Reads content failure →
        Mirrors Journal.AsksLike (Segment.reconfiguredAll config) (compile chain source)
          (compile' chain source'))
    (chain : List String) (name : String) :
    Mirrors Journal.AsksLike (Segment.reconfiguredAll config)
      (includeWith loader compile chain name) (includeWith other compile' chain name) := by
  by_cases inside : name ∈ chain
  · rw [include_circular compile inside, include_circular compile' inside]
    exact .of_throw _
  · intro journal journal' linked
    have asked : journal'.asked = journal.asked := linked
    have replies := recuts.replies journal.asked name
    rw [include_run compile inside, include_run compile' inside, asked]
    dsimp only
    cases replied : (loader.reply journal.asked name).result with
    | error fault =>
        rw [replied] at replies
        generalize (other.reply journal.asked name).result = answer at replies
        cases replies
        exact ⟨rfl, by simp [Journal.AsksLike, asked]⟩
    | ok source =>
        rw [replied] at replies
        generalize (other.reply journal.asked name).result = answer at replies
        cases replies with
        | @delivered _ _ _ source' reads reads' closed =>
            -- Only one of the journals may say that a stream has been opened.
            have told (source source' : Source) : Journal.AsksLike
                (journal ++ .asked name :: (loader.reply journal.asked name).notes.map .noted ++
                  source.opening journal.asked.length ++ [.compiling name])
                (journal' ++ .asked name :: (other.reply journal.asked name).notes.map .noted ++
                  source'.opening journal.asked.length ++ [.compiling name]) := by
              simp [Journal.AsksLike, asked]
            obtain ⟨same, later⟩ := inner (chain ++ [name]) reads reads' _ _ (told source source')
            refine ⟨?_, ?_⟩
            · dsimp only
              rw [closed]
              cases source.closeFailure with
              | none => exact same
              | some fault => rfl
            · simpa [Journal.AsksLike] using later

theorem compile_levels_mirror (options : Options) (recuts : loader.Recuts other) (fuel : Nat)
    (chain : List String) {content : String} {failure : Option Fault} {source source' : Source}
    (reads : source.Reads content failure) (reads' : source'.Reads content failure) :
    Mirrors Journal.AsksLike (Segment.reconfiguredAll ⟨options, other⟩)
      (compileLevels ⟨options, loader⟩ fuel chain source)
      (compileLevels ⟨options, other⟩ fuel chain source') := by
  induction fuel generalizing chain content failure source source' with
  | zero => exact .of_throw _
  | succ fuel induction =>
      rw [compile_levels_succ, compile_levels_succ, reads.same_scan reads']
      refine compile_recast rfl rfl rfl (include_mirrors recuts induction chain) ?_ source.scan
      intro count journal journal' linked
      have asked : journal'.asked = journal.asked := linked
      refine ⟨rfl, ?_⟩
      change Journal.asked (journal' ++ [_]) = Journal.asked (journal ++ [_])
      rw [Journal.asked_append, Journal.asked_append, asked]

end Compiling

/-- Sources that deliver the same text are compiled to the same segments, or refused by the same
fault, however each of them and the sources of the partials are cut. -/
theorem cutting_is_unseen (options : Options) {loader other : Loader}
    (recuts : loader.Recuts other) (chain : List String) {content : String}
    {failure : Option Fault} {source source' : Source} (reads : source.Reads content failure)
    (reads' : source'.Reads content failure) :
    let run := (Config.mk options loader).runCompile chain source
    let run' := (Config.mk options other).runCompile chain source'
    run'.1.map Template.segments =
        run.1.map (fun template => Segment.reconfiguredAll ⟨options, other⟩ template.segments) ∧
      run'.2.asked = run.2.asked := by
  intro run run'
  have levels := compile_levels_mirror options recuts (loader.depth + 1) chain reads reads' [] [] rfl
  have same := levels.1
  dsimp only [run, run']
  rw [run_compile_levels, run_compile_levels]
  dsimp only
  rw [recuts.depth, same]
  refine ⟨?_, levels.2⟩
  cases ((compileLevels ⟨options, loader⟩ (loader.depth + 1) chain source).run []).1 <;> rfl

/-- Cuts inside of markers, in front of a third brace and in front of a newline that is dropped. -/
theorem cuts_inside_of_tags_are_unseen :
    let tag (content : String) : String := String.ofList (Delimiters.standard.tag content.toList)
    let content := tag "#a" ++ "\n" ++ tag "\x7bx" ++ "\x7d" ++ tag "/a" ++ tag ">p"
    let pieces := ["\x7b", "\x7b#a\x7d\x7d", "\n\x7b\x7b\x7bx\x7d", "\x7d", "\x7d\x7b\x7b/a\x7d",
      "\x7d\x7b\x7b>p\x7d\x7d"]
    let loader : Loader := ⟨1, 1, fun _ _ => ⟨[], .ok (.text (tag "y"))⟩⟩
    let cut := ["\x7b\x7by", "\x7d\x7d"]
    let other : Loader := ⟨2, 1, fun _ _ => ⟨[], .ok (.stream cut none none)⟩⟩
    let run := (Config.mk .standard loader).runCompile [] (.text content)
    let run' := (Config.mk .standard other).runCompile [] (.stream pieces none none)
    loader.Recuts other ∧ (∀ piece ∈ pieces, piece ≠ "") ∧ String.join pieces = content ∧
      run.1.isOk = true ∧ run'.1.map Template.segments = run.1.map fun template =>
        Segment.reconfiguredAll ⟨.standard, other⟩ template.segments := by
  intro tag content pieces loader cut other run run'
  have reads : (Source.stream cut none none).Reads (tag "y") none :=
    .pieces (by decide) (by decide +kernel)
  have recuts : loader.Recuts other := ⟨rfl, fun _ _ => .delivered .whole reads rfl⟩
  have filled : ∀ piece ∈ pieces, piece ≠ "" := by decide
  have joined : String.join pieces = content := by decide +kernel
  refine ⟨recuts, filled, joined, by decide +kernel, ?_⟩
  exact (cutting_is_unseen .standard recuts [] .whole (.pieces filled joined)).1

end Mustache
