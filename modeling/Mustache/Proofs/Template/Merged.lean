import Mustache.Proofs.Template.Joined

/-!
How texts are parted. Segments are merged when one text stands in place of several that follow each
other, on every level but those of partials. What a source is assembled to does not depend on how its
texts are parted, once it is merged.
-/

namespace Mustache

set_option autoImplicit false

namespace Segment

mutual
/-- The same segment, with one text in place of several that follow each other in its section. -/
def merged : Segment → Segment
  | .text content => .text content
  | .interpolation name escaped line => .interpolation name escaped line
  | .block inverted name line body => .block inverted name line (mergeTexts (mergedEach body))
  | .included name config body => .included name config body
  termination_by structural segment => segment
def mergedEach : List Segment → List Segment
  | [] => []
  | segment :: rest => merged segment :: mergedEach rest
  termination_by structural segments => segments
end

def mergeAll (segments : List Segment) : List Segment := mergeTexts (mergedEach segments)

theorem merged_each_eq (segments : List Segment) : mergedEach segments = segments.map merged := by
  induction segments with
  | nil => rfl
  | cons segment segments induction => rw [mergedEach, induction, List.map_cons]

theorem merged_each_append (segments rest : List Segment) :
    mergedEach (segments ++ rest) = mergedEach segments ++ mergedEach rest := by
  simp only [merged_each_eq, List.map_append]

/-- What is merged already is as good as what it has been merged from. -/
theorem merge_texts_front (segments rest : List Segment) :
    mergeTexts (mergeTexts segments ++ rest) = mergeTexts (segments ++ rest) := by
  have prepended (content : String) (merged : List Segment) :
      mergeTexts (prependText content merged ++ rest) =
        prependText content (mergeTexts (merged ++ rest)) := by
    cases merged with
    | nil => rfl
    | cons segment others =>
        cases segment with
        | text next => exact (merge_texts_join content next (others ++ rest)).symm
        | _ => rfl
  induction segments with
  | nil => rfl
  | cons segment segments induction =>
      cases segment with
      | text content =>
          rw [mergeTexts, prepended, induction]
          rfl
      | interpolation name escaped line => exact congrArg (_ :: ·) induction
      | block inverted name line body => exact congrArg (_ :: ·) induction
      | included name config body => exact congrArg (_ :: ·) induction

theorem merge_texts_again (segments : List Segment) :
    mergeTexts (mergeTexts segments) = mergeTexts segments := by
  simpa using merge_texts_front segments []

theorem merged_each_texts (segments : List Segment) :
    mergedEach (mergeTexts segments) = mergeTexts (mergedEach segments) := by
  have prepended (content : String) (segments : List Segment) :
      mergedEach (prependText content segments) = prependText content (mergedEach segments) := by
    cases segments with
    | nil => rfl
    | cons segment rest => cases segment <;> rfl
  induction segments with
  | nil => rfl
  | cons segment segments induction =>
      cases segment with
      | text content =>
          rw [mergeTexts, prepended, induction]
          rfl
      | interpolation name escaped line => exact congrArg (_ :: ·) induction
      | block inverted name line body => exact congrArg (_ :: ·) induction
      | included name config body => exact congrArg (_ :: ·) induction

mutual
theorem merged_again (segment : Segment) : segment.merged.merged = segment.merged := by
  match segment with
  | .text _ | .interpolation _ _ _ | .included _ _ _ => rfl
  | .block _ _ _ body =>
      rw [merged, merged, merged_each_texts, merged_each_again body, merge_texts_again]
  termination_by structural segment
theorem merged_each_again (segments : List Segment) :
    mergedEach (mergedEach segments) = mergedEach segments := by
  match segments with
  | [] => rfl
  | segment :: rest =>
      rw [mergedEach, mergedEach, merged_again segment, merged_each_again rest]
  termination_by structural segments
end

theorem merge_all_front (segments rest : List Segment) :
    mergeAll (mergeAll segments ++ rest) = mergeAll (segments ++ rest) := by
  unfold mergeAll
  rw [merged_each_append, merged_each_texts, merged_each_again, merge_texts_front,
    ← merged_each_append]

theorem merge_all_again (segments : List Segment) :
    mergeAll (mergeAll segments) = mergeAll segments := by
  simpa using merge_all_front segments []

theorem merge_all_block (segments body : List Segment) (inverted : Bool) (name : String)
    (line : Nat) :
    mergeAll (segments ++ [.block inverted name line (mergeAll body)]) =
      mergeAll (segments ++ [.block inverted name line body]) := by
  have same : merged (.block inverted name line (mergeAll body)) =
      merged (.block inverted name line body) :=
    congrArg (Segment.block inverted name line) (merge_all_again body)
  have split (last : Segment) :
      mergeAll (segments ++ [last]) = mergeTexts (mergedEach segments ++ [last.merged]) := by
    rw [mergeAll, merged_each_append]
    rfl
  rw [split, split, same]

theorem merge_all_seam (segments : List Segment) (content text : List Char) :
    mergeAll (segments ++ [.text (String.ofList (content ++ text))]) =
      mergeAll (segments ++ (.text (String.ofList content) :: ofText text)) := by
  have plain : mergedEach (ofText text) = ofText text := by
    unfold ofText
    split <;> rfl
  unfold mergeAll
  rw [merged_each_append, merged_each_append]
  apply merge_texts_congr
  have seam := merge_texts_seam content text []
  rw [List.append_nil] at seam
  rw [mergedEach, mergedEach, mergedEach, plain]
  exact seam

end Segment

namespace Assembly

def mergedLevel (level : List Segment) : List Segment := (Segment.mergeAll level.reverse).reverse

def merged (assembly : Assembly) : Assembly :=
  ⟨mergedLevel assembly.current,
    assembly.blocks.map fun block => { block with outer := mergedLevel block.outer }⟩

theorem merged_level_add (segment : Segment) (level : List Segment) :
    mergedLevel (segment :: mergedLevel level) = mergedLevel (segment :: level) := by
  simp only [mergedLevel, List.reverse_cons, List.reverse_reverse, Segment.merge_all_front]

theorem merged_level_block (inverted : Bool) (name : String) (line : Nat)
    (level outer : List Segment) :
    mergedLevel (.block inverted name line (mergedLevel level).reverse :: mergedLevel outer) =
      mergedLevel (.block inverted name line level.reverse :: outer) := by
  rw [merged_level_add, mergedLevel, mergedLevel, mergedLevel, List.reverse_cons,
    List.reverse_cons, List.reverse_reverse, Segment.merge_all_block]

theorem merged_level_again (level : List Segment) :
    mergedLevel (mergedLevel level) = mergedLevel level := by
  rw [mergedLevel, mergedLevel, List.reverse_reverse, Segment.merge_all_again]

theorem merged_again (assembly : Assembly) : assembly.merged.merged = assembly.merged := by
  simp only [merged, merged_level_again, List.map_map, Function.comp_def]

theorem finish_merged (assembly : Assembly) :
    assembly.merged.finish = assembly.finish.map Segment.mergeAll := by
  rcases assembly with ⟨current, blocks⟩
  cases blocks with
  | nil => exact congrArg Except.ok (List.reverse_reverse _)
  | cons block around => rfl

end Assembly

section Merged

variable {config : Config} {partials : String → Except Fault (List Segment)}

/-- What a token leads to does not depend on how the texts before it are parted. -/
theorem place_merged (assembly : Assembly) (token : Token) :
    (assembly.merged.place config partials token).map Assembly.merged =
      (assembly.place config partials token).map Assembly.merged := by
  have added (segment : Segment) :
      (assembly.merged.add segment).merged = (assembly.add segment).merged := by
    have again := Assembly.merged_again assembly
    simp only [Assembly.merged, Assembly.mk.injEq] at again
    simp only [Assembly.add, Assembly.merged, Assembly.merged_level_add, again.2]
  cases token with
  | text content => exact congrArg Except.ok (added _)
  | tag tag line =>
      cases tag with
      | interpolation name raw => exact congrArg Except.ok (added _)
      | opening inverted name =>
          refine congrArg Except.ok ?_
          simp only [Assembly.openBlock, Assembly.merged, List.map_cons, List.map_map,
            Function.comp_def, Assembly.merged_level_again]
      | closing name =>
          rcases assembly with ⟨current, blocks⟩
          cases blocks with
          | nil => rfl
          | cons block around =>
              by_cases fits : block.name = name
              · simp [Assembly.place, Assembly.closeBlock, Assembly.merged, Except.map,
                  Except.mapError, fits, Assembly.merged_level_block,
                  Assembly.merged_level_again]
              · simp [Assembly.place, Assembly.closeBlock, Assembly.merged, Except.map,
                  Except.mapError, fits]
      | inclusion name =>
          cases included : partials name with
          | ok body =>
              rw [place_included included, place_included included]
              exact congrArg Except.ok (added _)
          | error fault => rw [place_missing included, place_missing included]
      | comment => exact congrArg Except.ok (Assembly.merged_again assembly)
      | directive delimiters => exact congrArg Except.ok (Assembly.merged_again assembly)

theorem place_all_merged {assembly other : Assembly} (same : assembly.merged = other.merged)
    (tokens : List Token) :
    (assembly.placeAll config partials tokens).map Assembly.merged =
      (other.placeAll config partials tokens).map Assembly.merged := by
  induction tokens generalizing assembly other with
  | nil => exact congrArg Except.ok same
  | cons token tokens induction =>
      have step : (assembly.place config partials token).map Assembly.merged =
          (other.place config partials token).map Assembly.merged := by
        rw [← place_merged, same, place_merged]
      rw [place_all_cons, place_all_cons]
      cases first : assembly.place config partials token with
      | error fault =>
          cases second : other.place config partials token with
          | error fault' =>
              rw [first, second] at step
              cases step
              rfl
          | ok next =>
              rw [first, second] at step
              cases step
      | ok next =>
          cases second : other.place config partials token with
          | error fault =>
              rw [first, second] at step
              cases step
          | ok next' =>
              rw [first, second] at step
              exact induction (Except.ok.inj step)

end Merged

namespace Assembly

theorem merged_parted (assembly : Assembly) (content text : List Char) :
    (assembly.add (.text (String.ofList (content ++ text)))).merged =
      ((assembly.add (.text (String.ofList content))).withText text).merged := by
  have level : Assembly.mergedLevel (.text (String.ofList (content ++ text)) :: assembly.current) =
      Assembly.mergedLevel
        (Segment.ofText text ++ .text (String.ofList content) :: assembly.current) := by
    unfold Assembly.mergedLevel
    rw [List.reverse_append, List.reverse_cons, List.reverse_cons, Segment.reverse_of_text,
      Segment.merge_all_seam]
    simp
  have parted : (assembly.add (.text (String.ofList content))).withText text =
      ⟨Segment.ofText text ++ .text (String.ofList content) :: assembly.current,
        assembly.blocks⟩ := by
    unfold Assembly.withText Segment.ofText
    split <;> rfl
  rw [parted]
  exact congrArg (Assembly.mk · _) level

end Assembly

end Mustache
