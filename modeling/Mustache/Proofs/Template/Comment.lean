import Mustache.Proofs.Template.Merged
import Mustache.Proofs.Template.Past
import Mustache.Proofs.Token.Comment

/-!
Compiling a source with a comment in a text. A comment makes no segment, at whatever depth it
stands. It only parts a text in two, and adds its newlines to the lines of the tags behind it. So the
segments are those without the comment once they are merged, and the tags in front of the comment are
on the lines they were on.
-/

namespace Mustache

set_option autoImplicit false

namespace Segment

section Both

variable {lines kept : Nat}

theorem prepend_past (content : String) (segments : List Segment) :
    movedPastAll lines kept (prependText content segments) =
      prependText content (movedPastAll lines kept segments) := by
  cases segments with
  | nil => rfl
  | cons segment rest => cases segment <;> rfl

theorem merge_texts_past (segments : List Segment) :
    mergeTexts (movedPastAll lines kept segments) =
      movedPastAll lines kept (mergeTexts segments) := by
  induction segments generalizing kept with
  | nil => rfl
  | cons segment segments induction =>
      rw [movedPastAll]
      cases segment with
      | text content =>
          rw [mergeTexts, prepend_past, ← induction]
          rfl
      | interpolation name escaped line => exact congrArg (_ :: ·) induction
      | block inverted name line body => exact congrArg (_ :: ·) induction
      | included name config body => exact congrArg (_ :: ·) induction

theorem merge_texts_tags (segments : List Segment) :
    tagsAll (mergeTexts segments) = tagsAll segments := by
  have prepended (content : String) (segments : List Segment) :
      tagsAll (prependText content segments) = tagsAll segments := by
    cases segments with
    | nil => rfl
    | cons segment rest =>
        cases segment with
        | text next => rfl
        | _ => exact Nat.zero_add _
  induction segments with
  | nil => rfl
  | cons segment segments induction =>
      cases segment with
      | text content =>
          rw [mergeTexts, prepended, induction]
          exact (Nat.zero_add _).symm
      | interpolation name escaped line => exact congrArg (_ + ·) induction
      | block inverted name line body => exact congrArg (_ + ·) induction
      | included name config body => exact congrArg (_ + ·) induction

mutual
theorem merged_tags (segment : Segment) : segment.merged.tags = segment.tags := by
  match segment with
  | .text _ | .interpolation _ _ _ | .included _ _ _ => rfl
  | .block _ _ _ body => rw [merged, tags, tags, merge_texts_tags, merged_each_tags body]
  termination_by structural segment
theorem merged_each_tags (segments : List Segment) :
    tagsAll (mergedEach segments) = tagsAll segments := by
  match segments with
  | [] => rfl
  | segment :: rest =>
      rw [mergedEach, tagsAll, tagsAll, merged_tags segment, merged_each_tags rest]
  termination_by structural segments
end

mutual
theorem merged_past (segment : Segment) (kept : Nat) :
    (segment.movedPast lines kept).merged = segment.merged.movedPast lines kept := by
  match segment with
  | .text _ | .interpolation _ _ _ | .included _ _ _ => rfl
  | .block _ _ _ body =>
      rw [movedPast, merged, merged, movedPast, merged_each_past body, merge_texts_past]
  termination_by structural segment
theorem merged_each_past (segments : List Segment) (kept : Nat) :
    mergedEach (movedPastAll lines kept segments) =
      movedPastAll lines kept (mergedEach segments) := by
  match segments with
  | [] => rfl
  | segment :: rest =>
      rw [movedPastAll, mergedEach, mergedEach, movedPastAll, merged_past segment,
        merged_each_past rest, merged_tags]
  termination_by structural segments
end

/-- Merging is of texts, and moving of tags. -/
theorem merge_all_past (segments : List Segment) (kept : Nat) :
    mergeAll (movedPastAll lines kept segments) =
      movedPastAll lines kept (mergeAll segments) := by
  rw [mergeAll, merged_each_past, merge_texts_past, mergeAll]

end Both

end Segment

def Assembly.complete (config : Config) (partials : String → Except Fault (List Segment))
    (assembly : Assembly) (rest : Scan) : Except Fault (List Segment) := do
  let reached ← assembly.placeAll config partials rest.tokens
  match rest.failure with
  | some fault => .error fault
  | none => reached.finish.mapError .parse

section Complete

variable {lines kept : Nat} {config : Config}
  {partials : String → Except Fault (List Segment)}

theorem segments_complete (lines : Nat) (earlier : List Token) (later : Scan) :
    (later.moved lines earlier).segments config partials =
      Assembly.empty.placeAll config partials earlier >>=
        (·.complete config partials (later.moved lines [])) := by
  unfold Scan.segments Assembly.complete
  rw [Scan.moved, Scan.moved, place_all_append]
  cases Assembly.empty.placeAll config partials earlier <;> rfl

theorem complete_merged {assembly other : Assembly} (same : assembly.merged = other.merged)
    (rest : Scan) :
    (assembly.complete config partials rest).map Segment.mergeAll =
      (other.complete config partials rest).map Segment.mergeAll := by
  have placed := @place_all_merged config partials assembly other same rest.tokens
  unfold Assembly.complete
  generalize assembly.placeAll config partials rest.tokens = first at placed ⊢
  generalize other.placeAll config partials rest.tokens = second at placed ⊢
  cases first with
  | error fault =>
      cases second with
      | error fault' =>
          cases placed
          rfl
      | ok reached => cases placed
  | ok reached =>
      cases second with
      | error fault => cases placed
      | ok reached' =>
          have alike : reached.merged = reached'.merged := Except.ok.inj placed
          cases rest.failure with
          | some fault => rfl
          | none =>
              have ends : reached.finish.map Segment.mergeAll =
                  reached'.finish.map Segment.mergeAll := by
                rw [← Assembly.finish_merged, alike, Assembly.finish_merged]
              have inside (result : Except ParseError (List Segment)) :
                  (result.mapError Fault.parse).map Segment.mergeAll =
                    (result.map Segment.mergeAll).mapError Fault.parse := by
                cases result <;> rfl
              dsimp only [bind, Except.bind]
              rw [inside, inside, ends]

theorem complete_past {assembly : Assembly} (past : kept ≤ assembly.tags) (rest : Scan) :
    Carried lines (Segment.movedPastAll lines kept) (assembly.complete config partials rest)
      ((assembly.movedPast lines kept).complete config partials (rest.moved lines [])) := by
  have placed := @place_all_past lines kept config partials assembly past rest.tokens
  have tokens : (rest.moved lines []).tokens = rest.tokens.map (Token.moved lines) := rfl
  unfold Assembly.complete
  rw [tokens]
  generalize assembly.placeAll config partials rest.tokens = first at placed ⊢
  generalize (assembly.movedPast lines kept).placeAll config partials
    (rest.tokens.map (Token.moved lines)) = second at placed ⊢
  cases placed with
  | same fault => exact .same fault
  | moved fault => exact .moved fault
  | ok reached =>
      rcases rest with ⟨tokens, failure⟩
      cases failure with
      | some fault => exact .moved fault
      | none => exact finish_past reached

/-- The segments of a source with a comment in a text, compared with those of the source without
it. -/
theorem segments_commented {first : String} (ends : EndsInText first) {remark : String}
    (plain : IsRemark remark) (second : String) :
    let lines := newlines remark.toList
    let kept := (Source.text first).scan.tokens.countP Token.isLined
    let bare := (Source.text (first ++ second)).scan.segments config partials
    let commented :=
      (Source.text (first ++ (commentOf remark ++ second))).scan.segments config partials
    ∃ parted : Except Fault (List Segment),
      bare.map Segment.mergeAll = parted.map Segment.mergeAll ∧
        Carried lines (Segment.movedPastAll lines kept) parted commented := by
  intro lines kept bare commented
  obtain ⟨front, content, text, later, line, firstly, whole, divided⟩ :=
    scan_commented ends plain second
  cases reached : Assembly.empty.placeAll config partials front with
  | error fault =>
      dsimp only [bare, commented]
      rw [whole, divided, segments_complete, segments_complete, List.append_assoc,
        place_all_append, place_all_append, reached]
      exact ⟨.error fault, rfl, .same fault⟩
  | ok assembly =>
      let rest := later.moved (newlines first.toList) []
      let behind := (assembly.add (.text (String.ofList content))).withText text
      have texted : (assembly.add (.text (String.ofList content))).placeAll config partials
          (Token.ofText text) = .ok behind := Assembly.place_all_text _ text
      have undivided : bare = (assembly.add
          (.text (String.ofList (content ++ text)))).complete config partials rest := by
        dsimp only [bare]
        rw [whole, segments_complete, place_all_append, reached]
        rfl
      have parted : commented = behind.complete config partials (rest.moved lines []) := by
        dsimp only [commented]
        rw [divided, segments_complete, List.append_assoc, place_all_append, reached,
          Scan.moved_further]
        change (assembly.add (.text (String.ofList content))).placeAll config partials
          (Token.ofText text) >>= _ = _
        rw [texted]
        rfl
      have counted : behind.tags = kept := by
        have clean : (Token.ofText text).countP Token.isLined = 0 := by
          unfold Token.ofText
          split <;> rfl
        have placed : Assembly.empty.placeAll config partials
            (front ++ .text (String.ofList content) :: Token.ofText text) = .ok behind := by
          rw [place_all_append, reached]
          exact texted
        dsimp only [kept]
        rw [place_all_tags placed, firstly, List.countP_append, List.countP_append,
          List.countP_cons, clean]
        exact Nat.zero_add _
      have carried := @complete_past lines kept config partials behind
        (Nat.le_of_eq counted.symm) rest
      rw [Assembly.moved_past_enough (Nat.le_of_eq counted)] at carried
      rw [undivided, parted]
      exact ⟨_, complete_merged (Assembly.merged_parted assembly content text) rest, carried⟩

end Complete

/-- With a table of partials, what a source is compiled to are the segments that its scan makes. -/
theorem compile_segments {config : Config} {identity : Nat} {table : List (String × String)}
    (loads : config.loader = .ofTable identity table) (chain : List String) :
    ∃ partials : String → Except Fault (List Segment), ∀ source,
      (config.runCompile chain source).1 =
        (source.scan.segments config partials).map (Template.mk · config) :=
  ⟨_, fun source =>
    run_compile_yields (table_levels_yield loads (config.loader.depth + 1) chain source)⟩

/-- Compiling a source with a comment in a text, compared with compiling it without that. -/
theorem compile_commented {config : Config} {identity : Nat} {table : List (String × String)}
    (loads : config.loader = .ofTable identity table) (chain : List String) {first : String}
    (ends : EndsInText first) {remark : String} (plain : IsRemark remark) (second : String) :
    let lines := newlines remark.toList
    let kept := (Source.text first).scan.tokens.countP Token.isLined
    let bare := (config.runCompile chain (.text (first ++ second))).1
    let commented := (config.runCompile chain (.text (first ++ (commentOf remark ++ second)))).1
    (∀ fault, bare = .error fault → ∃ fault', commented = .error fault' ∧
      (fault' = fault ∨ fault' = fault.moved lines)) ∧
    ∀ template, bare = .ok template → ∃ other, commented = .ok other ∧
      template.config = config ∧ other.config = config ∧
      Segment.mergeAll other.segments =
        Segment.mergeAll (Segment.movedPastAll lines kept template.segments) := by
  intro lines kept bare commented
  obtain ⟨partials, comes⟩ := compile_segments loads chain
  obtain ⟨parted, same, carried⟩ :=
    @segments_commented config partials first ends remark plain second
  dsimp only [bare, commented]
  rw [comes, comes]
  generalize (Source.text (first ++ second)).scan.segments config partials =
    alone at same ⊢
  generalize (Source.text (first ++ (commentOf remark ++ second))).scan.segments
    config partials = divided at carried ⊢
  cases alone with
  | error fault =>
      refine ⟨?_, nofun⟩
      rintro _ ⟨⟩
      cases carried with
      | ok segments => cases same
      | same fault' =>
          cases same
          exact ⟨fault, rfl, .inl rfl⟩
      | moved fault' =>
          cases same
          exact ⟨_, rfl, .inr rfl⟩
  | ok segments =>
      refine ⟨nofun, ?_⟩
      rintro _ ⟨⟩
      cases carried with
      | ok others =>
          refine ⟨_, rfl, rfl, rfl, ?_⟩
          dsimp only
          rw [Segment.merge_all_past, Segment.merge_all_past]
          exact congrArg (Segment.movedPastAll lines kept) (Except.ok.inj same).symm
      | same fault => cases same
      | moved fault => cases same

end Mustache
