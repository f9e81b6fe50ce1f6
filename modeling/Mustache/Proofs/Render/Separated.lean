import Mathlib.Data.List.Basic
import Mustache.Proofs.Render.Complement
import Mustache.Proofs.Render.Written
import Mustache.Proofs.Template.RoundTrip
import Mustache.Proofs.Value.Placed
import Mustache.Value.Adapters

/-!
Separators. A section that writes each element, and behind it an inverted section that is rendered
for all elements but the last one, writes the elements with a separator between them. The separator
is text of the template, which is why it is not escaped.
-/

namespace Mustache

set_option autoImplicit false

open Delimiters (standard)

/-- A tag on one line that changes no markers, with no newline behind it that could be dropped. -/
theorem Reading.start_past_plain_tag {delimiters : Delimiters} {line : Nat}
    {tree next : Assembly} {text rest : List Char} {tag : Tag} (spared : delimiters.Spares text)
    (plain : text.head? ≠ some '=') (short : newlines text = 0)
    (keeps : tag.delimitersAfter delimiters = delimiters) (told : Tag.read text line = .ok tag)
    (grown : tree.grow (.tag tag line) = .ok next) (kept : rest.head? ≠ some '\n') :
    start delimiters line tree (delimiters.tag text ++ rest) =
      (start delimiters line next rest).behind [.tag delimiters text tag line] := by
  have passed : passNewline (tag.dropsNewline next) line rest = (line, rest) := by
    cases rest with
    | nil => rfl
    | cons c rest =>
        have other : c ≠ '\n' := fun same => kept (congrArg some same)
        simp [passNewline, other]
  rw [start_past_tag spared plain (by rw [short, Nat.add_zero]) told grown, passed, keeps]

namespace Separated

/-- What stands before the separator and behind it, in the source of a template that writes the
elements of `xs` with the separator between them. -/
def front : String := "\x7b\x7b#xs\x7d\x7d\x7b\x7b.\x7d\x7d\x7b\x7b^-last\x7d\x7d"
def back : String := "\x7b\x7b/-last\x7d\x7d\x7b\x7b/xs\x7d\x7d"

def source (separator : String) : String := front ++ separator ++ back

def body (separator : String) : List Segment :=
  [.interpolation "." (.bool true) 1,
    .block true "-last" 1 (if separator = "" then [] else [.text separator])]

def opening : List Char := '#' :: "xs".toList
def element : List Char := ".".toList
def further : List Char := '^' :: "-last".toList
def furtherClosing : List Char := '/' :: "-last".toList
def closing : List Char := '/' :: "xs".toList

theorem source_tags (separator : String) :
    (source separator).toList =
      standard.tag opening ++ (standard.tag element ++ (standard.tag further ++
        (separator.toList ++ (standard.tag furtherClosing ++ (standard.tag closing ++ []))))) := by
  have before : front.toList =
      standard.tag opening ++ (standard.tag element ++ standard.tag further) := rfl
  have behind : back.toList = standard.tag furtherClosing ++ standard.tag closing := rfl
  rw [source, String.toList_append, String.toList_append, before, behind]
  simp only [List.append_assoc, List.append_nil]

def opened : Assembly :=
  ((Assembly.empty.openBlock false "xs" 1).add (.interpolation "." (.bool true) 1)).openBlock
    true "-last" 1

def frontPieces : List Piece :=
  [.tag standard opening (.opening false "xs") 1,
    .tag standard element (.interpolation "." false) 1,
    .tag standard further (.opening true "-last") 1]

def backPieces (line : Nat) : List Piece :=
  [.tag standard furtherClosing (.closing "-last") line, .tag standard closing (.closing "xs") line]

/-- No newline stands where a tag begins. -/
theorem tag_ahead (content rest : List Char) :
    (standard.tag content ++ rest).head? ≠ some '\n' := by
  simp [Delimiters.tag, standard, Marker.chars]

theorem front_reads {rest : List Char} (kept : rest.head? ≠ some '\n') :
    Reading.start standard 1 .empty
        (standard.tag opening ++ (standard.tag element ++ (standard.tag further ++ rest))) =
      (Reading.start standard 1 opened rest).behind frontPieces := by
  have list : Tag.Named "xs" := by decide
  have last : Tag.Named "-last" := by decide
  have opens : Tag.read opening 1 = .ok (.opening false "xs") := list.read_opening 1 false
  have shows : Tag.read element 1 = .ok (.interpolation "." false) := rfl
  have goes_on : Tag.read further 1 = .ok (.opening true "-last") := last.read_opening 1 true
  rw [Reading.start_past_plain_tag (by decide) (by decide) (by decide) rfl opens rfl
      (tag_ahead _ _),
    Reading.start_past_plain_tag (by decide) (by decide) (by decide) rfl shows rfl
      (tag_ahead _ _),
    Reading.start_past_plain_tag (by decide) (by decide) (by decide) rfl goes_on rfl kept]
  simp only [Reading.behind_behind]
  rfl

theorem back_reads (content : List Char) (line : Nat) :
    Reading.start standard line (opened.withText content)
        (standard.tag furtherClosing ++ (standard.tag closing ++ [])) =
      ⟨backPieces line, none⟩ := by
  have list : Tag.Named "xs" := by decide
  have last : Tag.Named "-last" := by decide
  have ends : Tag.read furtherClosing line = .ok (.closing "-last") := last.read_closing line
  have closes : Tag.read closing line = .ok (.closing "xs") := list.read_closing line
  have grown : ∃ body, (opened.withText content).grow (.tag (.closing "-last") line) =
      .ok ⟨[.block true "-last" 1 body, .interpolation "." (.bool true) 1],
        [⟨"xs", 1, false, []⟩]⟩ := by
    unfold Assembly.withText
    split <;> exact ⟨_, rfl⟩
  obtain ⟨body, grown⟩ := grown
  rw [Reading.start_past_plain_tag (by decide) (by decide) (by decide) rfl ends grown
      (tag_ahead _ _),
    Reading.start_past_plain_tag (by decide) (by decide) (by decide) rfl closes rfl (by decide),
    Reading.start_of_nothing rfl]
  rfl

/-- The separator is the only text that is read. -/
theorem source_reads {separator : String} (plain : '{' ∉ separator.toList)
    (kept : separator.toList.head? ≠ some '\n') :
    Reading.ofText (source separator).toList =
      ⟨frontPieces ++ (Piece.ofText separator.toList ++
        backPieces (1 + newlines separator.toList)), none⟩ := by
  have ahead (rest : List Char) :
      (separator.toList ++ (standard.tag furtherClosing ++ rest)).head? ≠ some '\n' := by
    cases shape : separator.toList with
    | nil => exact tag_ahead _ _
    | cons c others => rwa [shape] at kept
  have absent : standard.opening.first ∉ separator.toList := plain
  rw [source_tags, Reading.ofText, front_reads (ahead _),
    Reading.start_past_text absent (standard.tag_append_ready _ _), back_reads]
  simp only [Reading.behind_behind]
  rfl

/-- The source compiles to a section with the separator in it. -/
theorem source_compiles {separator : String} (plain : '{' ∉ separator.toList)
    (kept : separator.toList.head? ≠ some '\n') :
    (Config.standard.runCompile [] (.text (source separator))).1 =
      .ok ⟨[.block false "xs" 1 (body separator)], .standard⟩ := by
  have compiled (includePartial : String → Compile (List Segment)) :
      (Source.text (source separator)).scan.compile .standard includePartial =
        (do record (.compiled 1); return [.block false "xs" 1 (body separator)]) := by
    rw [compile_settled, scan_settled, source_reads plain kept]
    by_cases empty : separator = ""
    · subst empty
      rfl
    · have proper : separator.toList ≠ [] := by simpa using empty
      rw [body, if_neg empty, Piece.ofText, if_neg proper]
      simp only [Reading.scan, List.map_append, List.map_singleton, Piece.token,
        String.ofList_toList]
      rfl
  rw [Config.runCompile, Config.compileInside, compile_levels_succ]
  change (((Source.text (source separator)).scan.compile .standard _ >>= _ :
    Compile Template).run []).1 = _
  rw [compiled]
  rfl

def shown (separator : String) (placed : Placed) : String :=
  match placed.element with
  | .text content => Text.escape content ++ if placed.last then "" else separator
  | _ => ""

/-- All texts with what stands behind them are the texts with the separator between them. -/
theorem join_shown (separator : String) (index : Nat) (texts : List String) :
    String.join ((placeFrom index (texts.map .text)).map (shown separator)) =
      separator.intercalate (texts.map Text.escape) := by
  induction texts generalizing index with
  | nil => simp [placeFrom]
  | cons text texts induction =>
      rw [List.map_cons, placeFrom, List.map_cons, String.join_cons, induction]
      cases texts with
      | nil => simp [shown]
      | cons next texts => simp [shown]

section Rendering

variable {registry : Registry} {store : Store} {value : Value} {separator : String}

/-- The body writes a text with what stands behind it, and does nothing else. -/
theorem body_run (scope : Scope) {placed : Placed} {text : String}
    (texted : placed.element = .text text) (written : String) :
    (renderSegments ⟨.standard, registry⟩ (scope.nest (.ofPlaced placed)) (body separator)).run
        (store, written) = (.ok (), store, written ++ shown separator placed) := by
  obtain ⟨index, position, last, _⟩ := placed
  cases texted
  let inner := scope.nest (.ofPlaced ⟨index, position, last, .text text⟩)
  have interpolates : (renderSegment ⟨.standard, registry⟩ inner
      (.interpolation "." (.bool true) 1)).run (store, written) =
        (.ok (), store, written ++ Text.escape text) := rfl
  have nothing (written : String) : (Except.ok (), store, written) =
      ((.ok (), store, written ++ "") : Except Fault Unit × Store × String) := by
    rw [String.append_empty]
  have separates (written : String) : (renderSegment ⟨.standard, registry⟩ inner
      (.block true "-last" 1 (if separator = "" then [] else [.text separator]))).run
        (store, written) = (.ok (), store, written ++ if last then "" else separator) := by
    cases last with
    | true => exact nothing written
    | false =>
        by_cases empty : separator = ""
        · subst empty
          exact nothing written
        · rw [if_neg empty]
          rfl
  change (renderSegment _ inner _ >>= fun _ => renderSegment _ inner _ >>= pure).run _ = _
  rw [Action.run_bind_ok interpolates, bind_pure, separates, shown, String.append_assoc]

/-- Whatever brings the texts, the section writes them with the separator between them. -/
theorem section_run {texts : List String}
    (sequence : value.kind registry = .sequence)
    (brings : value.Brings registry Eq (fun _ => True) store (texts.map .text) none)
    (scope : Scope) :
    ∃ last, (Setting.sectionOver ⟨.standard, registry⟩ scope
        (renderSegments ⟨.standard, registry⟩ · (body separator)) value).run (store, "") =
      (.ok (), last, separator.intercalate (texts.map Text.escape)) := by
  let whole := placeFrom 1 (texts.map .text)
  have steps : VisitsInTurn Eq
      (fun placed => renderSegments ⟨.standard, registry⟩ (scope.nest (.ofPlaced placed))
        (body separator)) whole
      (fun seen written => written = String.join (seen.map (shown separator))) := by
    rintro seen placed begins store written rfl
    have among : placed.element ∈ whole.map (·.element) :=
      List.mem_map_of_mem (mem_of_begins begins)
    rw [place_from_elements] at among
    obtain ⟨text, _, texted⟩ := List.mem_map.mp among
    refine ⟨store, _, body_run scope texted.symm _, rfl, ?_⟩
    simp
  obtain ⟨_, last, written, run, _, _, rfl⟩ :=
    Value.visit_brings (fun _ => rfl) steps brings rfl String.join_nil.symm
  refine ⟨last, ?_⟩
  unfold Setting.sectionOver
  rw [sequence]
  exact run.trans (by rw [join_shown]; rfl)

end Rendering

end Separated

/-- What iterates, or is registered to, is a sequence unless it stands for nothing or is asked for
as a yes or no. -/
theorem kind_sequence {registry : Registry} {value : Value}
    (counts : value.builtinKind = .sequence ∨ (registry.adapterFor? value).isSome)
    (apart : value ≠ .missing ∧ value ≠ .null ∧ ∀ flag, value ≠ .bool flag) :
    value.kind registry = .sequence := by
  have counted : (if (registry.adapterFor? value).isSome then .sequence else value.builtinKind) =
      Kind.sequence := by
    split
    · rfl
    · next unregistered => exact counts.resolve_right unregistered
  cases value with
  | missing => exact (apart.1 rfl).elim
  | null => exact (apart.2.1 rfl).elim
  | bool flag => exact (apart.2.2 flag rfl).elim
  | _ => exact counted

/-- The separator stands between the texts and nowhere else, and it is not escaped. It may be any
text in which no tag begins and which is not shortened by the tag before it, and the texts may come
from any sequence: one of those that are built in, or a value of a registered type. -/
theorem separators_stand_between (registry : Registry) (value : Value) (store : Store)
    (separator : String) (texts : List String) (plain : '{' ∉ separator.toList)
    (kept : separator.toList.head? ≠ some '\n')
    (counts : value.builtinKind = .sequence ∨ (registry.adapterFor? value).isSome)
    (apart : value ≠ .missing ∧ value ≠ .null ∧ ∀ flag, value ≠ .bool flag)
    (brings : value.Brings registry Eq (fun _ => True) store (texts.map .text) none) :
    ∃ template,
      (Config.standard.runCompile [] (.text (Separated.source separator))).1 = .ok template ∧
      (template.render registry (.mapping .dictionary [(.text "xs", value)]) store).1 =
        ⟨separator.intercalate (texts.map Text.escape), none⟩ := by
  refine ⟨_, Separated.source_compiles plain kept, ?_⟩
  let scope : Scope := .root (.mapping .dictionary [(.text "xs", value)])
  have sequence := kind_sequence counts apart
  have resolves : (Setting.resolve ⟨.standard, registry⟩ scope "xs").run (store, "") =
      (.ok value, store, "") := by
    cases value with
    | missing => cases sequence
    | _ => rfl
  obtain ⟨last, run⟩ := Separated.section_run sequence brings scope
  rw [Template.render, Template.render_to_run]
  change (Rendering.ofRun ((renderSegment ⟨.standard, registry⟩ scope
    (.block false "xs" 1 (Separated.body separator)) >>= pure).run (store, ""))).1 = _
  rw [bind_pure, section_resolves, Action.run_bind_ok resolves, run]
  rfl

/-- An array is written through its adapter, with the texts escaped and the separator not. -/
theorem array_is_written_separated :
    let roster : Roster HostType Adapter := ⟨[(.array, .elements)]⟩
    let registry := roster.registry HostType.holds
    let value : Value := .array false [.text "a<b", .text "c"] 0
    ∃ template,
      (Config.standard.runCompile [] (.text (Separated.source " & "))).1 = .ok template ∧
      (template.render registry (.mapping .dictionary [(.text "xs", value)]) .empty).1 =
        ⟨"a&lt;b & c", none⟩ := by
  intro roster registry value
  have brings : value.Brings registry Eq (fun _ => True) .empty (["a<b", "c"].map .text) none := by
    refine .read rfl (.more rfl ?_)
    rintro _ rfl
    refine .more rfl ?_
    rintro _ rfl
    exact .ends rfl trivial
  exact separators_stand_between registry value .empty " & " ["a<b", "c"] (by decide) (by decide)
    (.inr rfl) ⟨nofun, nofun, nofun⟩ brings

/-- What is registered for booleans, or for what stands for nothing, is never asked. With a boolean
the section is rendered where it stands, and writes the data around it. -/
theorem registered_boolean_is_not_separated :
    let registry (type : HostType) (adapter : Adapter) : Registry :=
      (Roster.mk [(type, adapter)]).registry HostType.holds
    let render (registry : Registry) (value : Value) (rendering : Rendering) : Prop :=
      ∃ template,
        (Config.standard.runCompile [] (.text (Separated.source ", "))).1 = .ok template ∧
        (template.render registry (.mapping .dictionary [(.text "xs", value)]) .empty).1 = rendering
    let separated (texts : List String) : Rendering :=
      ⟨", ".intercalate (texts.map Text.escape), none⟩
    let booleans := registry .bool .empty
    let missing := registry .missing fun _ => pure (.fixed [.text "a"])
    let written : Rendering := ⟨"\x7b&apos;xs&apos;: True\x7d, ", none⟩
    (Value.bool true).Brings booleans Eq (fun _ => True) .empty [] none ∧
      render booleans (.bool true) written ∧ written ≠ separated [] ∧
      Value.missing.Brings missing Eq (fun _ => True) .empty (["a"].map .text) none ∧
      render missing .missing ⟨"", none⟩ ∧ ⟨"", none⟩ ≠ separated ["a"] := by
  intro registry render separated booleans missing written
  have compiled := @Separated.source_compiles ", " (by decide) (by decide)
  have differs {rendering : Rendering} {texts : List String}
      (differ : rendering.written ≠ ", ".intercalate (texts.map Text.escape)) :
      rendering ≠ separated texts := fun same => differ (congrArg Rendering.written same)
  have delivers : Value.missing.Brings missing Eq (fun _ => True) .empty (["a"].map .text) none := by
    refine .read rfl (.more rfl ?_)
    rintro _ rfl
    exact .ends rfl trivial
  refine ⟨.read rfl (.ends rfl trivial), ⟨_, compiled, ?_⟩, differs (by decide), delivers,
    ⟨_, compiled, rfl⟩, differs (by decide)⟩
  exact congrArg (Rendering.mk · none) (by decide +kernel : _ = written.written)

end Mustache
