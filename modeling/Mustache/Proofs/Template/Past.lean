import Mustache.Proofs.Template.Joined

/-!
Lines that are moved behind some place in a source. The tags in front of it keep theirs, and they
are the first so many in the order of the source, at whatever depth they come to stand. A section
has the line of its opening tag, so that one which is open at that place keeps its line while those
of the tags in it move.
-/

namespace Mustache

set_option autoImplicit false

namespace Segment

mutual
def tags : Segment → Nat
  | .text _ | .included _ _ _ => 0
  | .interpolation _ _ _ => 1
  | .block _ _ _ body => tagsAll body + 1
  termination_by structural segment => segment
def tagsAll : List Segment → Nat
  | [] => 0
  | segment :: rest => segment.tags + tagsAll rest
  termination_by structural segments => segments
end

mutual
/-- The same segment, with so many lines more behind the first `kept` tags of the source. -/
def movedPast (lines kept : Nat) : Segment → Segment
  | .text content => .text content
  | .interpolation name escaped line =>
      .interpolation name escaped (line + if kept = 0 then lines else 0)
  | .block inverted name line body =>
      .block inverted name (line + if kept = 0 then lines else 0)
        (movedPastAll lines (kept - 1) body)
  | .included name config body => .included name config body
  termination_by structural segment => segment
def movedPastAll (lines kept : Nat) : List Segment → List Segment
  | [] => []
  | segment :: rest => movedPast lines kept segment :: movedPastAll lines (kept - segment.tags) rest
  termination_by structural segments => segments
end

mutual
theorem moved_past_none (lines : Nat) (segment : Segment) :
    segment.movedPast lines 0 = segment.moved lines := by
  match segment with
  | .text _ | .interpolation _ _ _ | .included _ _ _ => rfl
  | .block _ _ _ body => rw [movedPast, moved, moved_past_all_none lines body, if_pos rfl]
  termination_by structural segment
theorem moved_past_all_none (lines : Nat) (segments : List Segment) :
    movedPastAll lines 0 segments = movedAll lines segments := by
  match segments with
  | [] => rfl
  | segment :: rest =>
      rw [movedPastAll, movedAll, moved_past_none lines segment, Nat.zero_sub,
        moved_past_all_none lines rest]
  termination_by structural segments
end

section Past

variable {lines kept : Nat}

theorem tags_all_append (segments rest : List Segment) :
    tagsAll (segments ++ rest) = tagsAll segments + tagsAll rest := by
  induction segments with
  | nil => simp [tagsAll]
  | cons segment segments induction =>
      rw [List.cons_append, tagsAll, tagsAll, induction, Nat.add_assoc]

theorem moved_past_all_append (segments rest : List Segment) :
    movedPastAll lines kept (segments ++ rest) =
      movedPastAll lines kept segments ++ movedPastAll lines (kept - tagsAll segments) rest := by
  induction segments generalizing kept with
  | nil => rfl
  | cons segment segments induction =>
      rw [List.cons_append, movedPastAll, movedPastAll, induction, tagsAll, Nat.sub_sub,
        List.cons_append]

mutual
theorem moved_past_enough {kept : Nat} {segment : Segment} (enough : segment.tags ≤ kept) :
    segment.movedPast lines kept = segment := by
  match segment with
  | .text _ | .included _ _ _ => rfl
  | .interpolation _ _ _ =>
      have some : kept ≠ 0 := Nat.ne_of_gt enough
      rw [movedPast, if_neg some, Nat.add_zero]
  | .block _ _ _ body =>
      have both : tagsAll body + 1 ≤ kept := enough
      have some : kept ≠ 0 := by omega
      have inner : tagsAll body ≤ kept - 1 := by omega
      rw [movedPast, if_neg some, Nat.add_zero, moved_past_all_enough inner]
  termination_by structural segment
theorem moved_past_all_enough {kept : Nat} {segments : List Segment}
    (enough : tagsAll segments ≤ kept) : movedPastAll lines kept segments = segments := by
  match segments with
  | [] => rfl
  | segment :: rest =>
      have both : segment.tags + tagsAll rest ≤ kept := enough
      have first : segment.tags ≤ kept := by omega
      have others : tagsAll rest ≤ kept - segment.tags := by omega
      rw [movedPastAll, moved_past_enough first, moved_past_all_enough others]
  termination_by structural segments
end

end Past

end Segment

/-- Tokens of tags that segments tell the lines of. -/
def Token.isLined : Token → Bool
  | .tag (.interpolation _ _) _ | .tag (.opening _ _) _ => true
  | _ => false

namespace Assembly

/-- How many tags there are in front of the innermost open level. -/
def tagsBefore : List OpenBlock → Nat
  | [] => 0
  | block :: around => tagsBefore around + Segment.tagsAll block.outer.reverse + 1

def tags (assembly : Assembly) : Nat :=
  tagsBefore assembly.blocks + Segment.tagsAll assembly.current.reverse

/-- The segments of a level, latest first, in front of which there are so many tags. -/
def levelPast (lines kept before : Nat) (level : List Segment) : List Segment :=
  (Segment.movedPastAll lines (kept - before) level.reverse).reverse

def blocksPast (lines kept : Nat) : List OpenBlock → List OpenBlock
  | [] => []
  | block :: around =>
      let before := tagsBefore around
      { block with
        line := block.line +
          if kept - before - Segment.tagsAll block.outer.reverse = 0 then lines else 0
        outer := levelPast lines kept before block.outer } :: blocksPast lines kept around

/-- The same assembly, with so many lines more behind the first `kept` tags of the source. -/
def movedPast (lines kept : Nat) (assembly : Assembly) : Assembly :=
  ⟨levelPast lines kept (tagsBefore assembly.blocks) assembly.current,
    blocksPast lines kept assembly.blocks⟩

variable {lines kept : Nat}

theorem moved_past_enough {assembly : Assembly} (enough : assembly.tags ≤ kept) :
    assembly.movedPast lines kept = assembly := by
  have level {before : Nat} {segments : List Segment}
      (enough : before + Segment.tagsAll segments.reverse ≤ kept) :
      levelPast lines kept before segments = segments := by
    have inner : Segment.tagsAll segments.reverse ≤ kept - before := by omega
    rw [levelPast, Segment.moved_past_all_enough inner, List.reverse_reverse]
  have blocks {blocks : List OpenBlock} (enough : tagsBefore blocks ≤ kept) :
      blocksPast lines kept blocks = blocks := by
    induction blocks with
    | nil => rfl
    | cons block around induction =>
        rw [tagsBefore] at enough
        have some : kept - tagsBefore around - Segment.tagsAll block.outer.reverse ≠ 0 := by omega
        rw [blocksPast, induction (by omega), level (by omega), if_neg some]
        rfl
  rw [movedPast, level enough, blocks (Nat.le_trans (Nat.le_add_right _ _) enough)]

theorem level_past_add (before : Nat) (level : List Segment) (segment : Segment) :
    levelPast lines kept before (segment :: level) =
      segment.movedPast lines (kept - before - Segment.tagsAll level.reverse) ::
        levelPast lines kept before level := by
  rw [levelPast, List.reverse_cons, Segment.moved_past_all_append, List.reverse_append]
  rfl

theorem add_past {assembly : Assembly} (past : kept ≤ assembly.tags) (segment : Segment) :
    (assembly.movedPast lines kept).add (segment.moved lines) =
      (assembly.add segment).movedPast lines kept := by
  have none : kept - tagsBefore assembly.blocks - Segment.tagsAll assembly.current.reverse = 0 := by
    unfold tags at past
    omega
  unfold add movedPast
  dsimp only
  rw [level_past_add, none, Segment.moved_past_none]

theorem open_past {assembly : Assembly} (past : kept ≤ assembly.tags) (inverted : Bool)
    (name : String) (line : Nat) :
    (assembly.movedPast lines kept).openBlock inverted name (line + lines) =
      (assembly.openBlock inverted name line).movedPast lines kept := by
  have none : kept - tagsBefore assembly.blocks - Segment.tagsAll assembly.current.reverse = 0 := by
    unfold tags at past
    omega
  unfold openBlock movedPast
  rw [blocksPast, none, if_pos rfl]
  rfl

theorem close_past (assembly : Assembly) (name : String) (line : Nat) :
    (assembly.movedPast lines kept).closeBlock name (line + lines : Nat) =
      ((assembly.closeBlock name line).map (movedPast lines kept)).mapError
        (ParseError.moved lines) := by
  rcases assembly with ⟨current, blocks⟩
  cases blocks with
  | nil => simp [closeBlock, movedPast, blocksPast, Except.map, Except.mapError, ParseError.moved]
  | cons block around =>
      by_cases fits : block.name = name
      · have behind : kept - tagsBefore (block :: around) =
            kept - tagsBefore around - Segment.tagsAll block.outer.reverse - 1 := by
          rw [tagsBefore]
          omega
        have body : (levelPast lines kept (tagsBefore (block :: around)) current).reverse =
            Segment.movedPastAll lines
              (kept - tagsBefore around - Segment.tagsAll block.outer.reverse - 1)
              current.reverse := by rw [levelPast, List.reverse_reverse, behind]
        simp [closeBlock, movedPast, blocksPast, Except.map, Except.mapError, fits, level_past_add,
          Segment.movedPast, body]
      · simp [closeBlock, movedPast, blocksPast, Except.map, Except.mapError, fits,
          ParseError.moved]

end Assembly

/-- How the outcome changes when lines do: a result changes with them, and a fault may have a line
that is one of those. -/
inductive Carried {α : Type} (lines : Nat) (change : α → α) :
    Except Fault α → Except Fault α → Prop where
  | ok (value : α) : Carried lines change (.ok value) (.ok (change value))
  | same (fault : Fault) : Carried lines change (.error fault) (.error fault)
  | moved (fault : Fault) : Carried lines change (.error fault) (.error (fault.moved lines))

section Past

variable {lines kept : Nat} {config : Config}
  {partials : String → Except Fault (List Segment)}

theorem place_tags {assembly next : Assembly} {token : Token}
    (placed : assembly.place config partials token = .ok next) :
    next.tags = assembly.tags + if token.isLined then 1 else 0 := by
  have added (segment : Segment) :
      (assembly.add segment).tags = assembly.tags + segment.tags := by
    simp [Assembly.add, Assembly.tags, Segment.tags_all_append, Segment.tagsAll, Nat.add_assoc]
  cases token with
  | text content =>
      cases placed
      exact added _
  | tag tag line =>
      cases tag with
      | interpolation name raw =>
          cases placed
          exact added _
      | opening inverted name =>
          cases placed
          rfl
      | closing name =>
          obtain ⟨block, blocks, around, _, rfl⟩ := Assembly.place_closing_iff.mp placed
          simp [Assembly.tags, Assembly.tagsBefore, around, Segment.tags_all_append,
            Segment.tagsAll, Segment.tags, Token.isLined]
          omega
      | inclusion name =>
          obtain ⟨body, _, placed⟩ := except_of_bind_ok placed
          cases placed
          exact added _
      | comment =>
          cases placed
          rfl
      | directive delimiters =>
          cases placed
          rfl

theorem place_all_tags {assembly next : Assembly} {tokens : List Token}
    (placed : assembly.placeAll config partials tokens = .ok next) :
    next.tags = assembly.tags + tokens.countP Token.isLined := by
  induction tokens generalizing assembly with
  | nil =>
      cases placed
      rfl
  | cons token tokens induction =>
      obtain ⟨between, here, later⟩ := except_of_bind_ok ((place_all_cons _ _ _).symm.trans placed)
      rw [induction later, place_tags here, List.countP_cons, Nat.add_assoc,
        Nat.add_comm (tokens.countP Token.isLined)]

/-- A token behind the tags that keep their lines. -/
theorem place_past {assembly : Assembly} (past : kept ≤ assembly.tags) (token : Token) :
    Carried lines (Assembly.movedPast lines kept) (assembly.place config partials token)
      ((assembly.movedPast lines kept).place config partials (token.moved lines)) := by
  have added (segment : Segment) :
      Carried lines (Assembly.movedPast lines kept) (.ok (assembly.add segment))
        (.ok ((assembly.movedPast lines kept).add (segment.moved lines))) := by
    rw [Assembly.add_past past]
    exact .ok _
  cases token with
  | text content => exact added (.text content)
  | tag tag line =>
      cases tag with
      | interpolation name raw => exact added (.interpolation name _ line)
      | opening inverted name =>
          have opened : (assembly.movedPast lines kept).openBlock inverted name (line + lines) =
              (assembly.openBlock inverted name line).movedPast lines kept :=
            Assembly.open_past past inverted name line
          change Carried lines _ (.ok _)
            (.ok ((assembly.movedPast lines kept).openBlock inverted name (line + lines)))
          rw [opened]
          exact .ok _
      | closing name =>
          change Carried lines _ ((assembly.closeBlock name line).mapError Fault.parse)
            (((assembly.movedPast lines kept).closeBlock name (line + lines : Nat)).mapError
              Fault.parse)
          rw [Assembly.close_past]
          cases assembly.closeBlock name line with
          | ok next => exact .ok next
          | error error => exact .moved (.parse error)
      | inclusion name =>
          cases included : partials name with
          | ok body =>
              rw [place_included included, Token.moved, place_included included]
              exact added (.included name config body)
          | error fault =>
              rw [place_missing included, Token.moved, place_missing included]
              exact .same fault
      | comment => exact .ok assembly
      | directive delimiters => exact .ok assembly

theorem place_all_past {assembly : Assembly} (past : kept ≤ assembly.tags) (tokens : List Token) :
    Carried lines (Assembly.movedPast lines kept) (assembly.placeAll config partials tokens)
      ((assembly.movedPast lines kept).placeAll config partials
        (tokens.map (Token.moved lines))) := by
  induction tokens generalizing assembly with
  | nil => exact .ok assembly
  | cons token tokens induction =>
      rw [List.map_cons, place_all_cons, place_all_cons]
      have carried := @place_past lines kept config partials assembly past token
      generalize outcome : assembly.place config partials token = placed at carried ⊢
      generalize (assembly.movedPast lines kept).place config partials
        (token.moved lines) = other at carried ⊢
      cases carried with
      | ok next =>
          have further : assembly.tags ≤ next.tags := by
            rw [place_tags outcome]
            exact Nat.le_add_right _ _
          exact induction (past.trans further)
      | same fault => exact .same fault
      | moved fault => exact .moved fault

theorem finish_past (assembly : Assembly) :
    Carried lines (Segment.movedPastAll lines kept) (assembly.finish.mapError Fault.parse)
      ((assembly.movedPast lines kept).finish.mapError Fault.parse) := by
  rcases assembly with ⟨current, blocks⟩
  cases blocks with
  | nil =>
      have level : (Assembly.levelPast lines kept 0 current).reverse =
          Segment.movedPastAll lines kept current.reverse := by
        rw [Assembly.levelPast, List.reverse_reverse, Nat.sub_zero]
      change Carried lines _ (.ok current.reverse)
        (.ok (Assembly.levelPast lines kept 0 current).reverse)
      rw [level]
      exact .ok _
  | cons block around =>
      unfold Assembly.movedPast Assembly.finish
      rw [Assembly.blocksPast]
      dsimp only
      split
      · exact .moved (.parse ⟨.neverClosed block.inverted block.name, some block.line⟩)
      · exact .same _

end Past

end Mustache
