import Mustache.Proofs.Segment
import Mustache.Proofs.Template.Assembly

/-!
Whether tokens can be assembled. The segments of partials have no part in that: tokens that can be
assembled with empty partials can be with any others, as long as there are any. A partial that
stands in the result, at whatever depth of sections, is one that was there for its name.
-/

namespace Mustache

set_option autoImplicit false

def Assembly.openNames (assembly : Assembly) : List String := assembly.blocks.map (·.name)

theorem close_same {assembly tree : Assembly} (same : assembly.openNames = tree.openNames)
    (name : String) (line : Nat) :
    (∃ error, assembly.closeBlock name line = .error error ∧
        tree.closeBlock name line = .error error) ∨
      ∃ closed shape, assembly.closeBlock name line = .ok closed ∧
        tree.closeBlock name line = .ok shape ∧ closed.openNames = shape.openNames := by
  unfold Assembly.openNames at same
  unfold Assembly.closeBlock
  cases inner : tree.blocks with
  | nil =>
      rw [inner] at same
      rw [List.map_eq_nil_iff.mp same]
      exact .inl ⟨_, rfl, rfl⟩
  | cons block blocks =>
      rw [inner] at same
      obtain ⟨other, others, around, sameName, sameNames⟩ := List.map_eq_cons_iff.mp same
      rw [around]
      dsimp only
      rw [sameName]
      by_cases fits : block.name = name
      · rw [if_pos fits, if_pos fits]
        exact .inr ⟨_, _, rfl, rfl, sameNames⟩
      · rw [if_neg fits, if_neg fits]
        exact .inl ⟨_, rfl, rfl⟩

def Scan.partials (scan : Scan) : List String :=
  scan.tokens.filterMap fun token => match token with
    | .tag (.inclusion name) _ => some name
    | _ => none

/-- Either both fail or both come to trees with the same sections open. -/
def Alike : Except Fault Assembly → Except Fault Assembly → Prop
  | .ok assembly, .ok tree => assembly.openNames = tree.openNames
  | .error _, .error _ => True
  | _, _ => False

section Shape

variable {config other : Config} {partials : String → Except Fault (List Segment)}

theorem place_alike {assembly tree : Assembly} (same : assembly.openNames = tree.openNames)
    (token : Token)
    (included : ∀ name line, token = .tag (.inclusion name) line →
      ∃ body, partials name = .ok body) :
    Alike (assembly.place config partials token)
      (tree.place other (fun _ => .ok []) token) := by
  cases token with
  | text content => exact same
  | tag tag line =>
      cases tag with
      | interpolation name raw => exact same
      | opening inverted name => exact congrArg (name :: ·) same
      | closing name =>
          simp only [Assembly.place]
          rcases close_same same name line with
            ⟨error, refused, shape⟩ | ⟨closed, shape, accepted, grown, still⟩
          · rw [refused, shape]
            trivial
          · rw [accepted, grown]
            exact still
      | inclusion name =>
          obtain ⟨body, loaded⟩ := included name line rfl
          simp only [Assembly.place, loaded]
          exact same
      | comment => exact same
      | directive delimiters => exact same

theorem place_all_alike (tokens : List Token)
    (included : ∀ name line, .tag (.inclusion name) line ∈ tokens →
      ∃ body, partials name = .ok body)
    {assembly tree : Assembly} (same : assembly.openNames = tree.openNames) :
    Alike (assembly.placeAll config partials tokens)
      (tree.placeAll other (fun _ => .ok []) tokens) := by
  induction tokens generalizing assembly tree with
  | nil => exact same
  | cons token tokens induction =>
      have first : Alike (assembly.place config partials token)
          (tree.place other (fun _ => .ok []) token) :=
        place_alike same token fun name line told => included name line (told ▸ List.mem_cons_self)
      rw [place_all_cons, place_all_cons]
      cases placed : assembly.place config partials token with
      | error fault =>
          rw [placed] at first
          cases grown : tree.place other (fun _ => .ok []) token with
          | error fault' => trivial
          | ok shape =>
              rw [grown] at first
              exact first.elim
      | ok next =>
          rw [placed] at first
          cases grown : tree.place other (fun _ => .ok []) token with
          | error fault' =>
              rw [grown] at first
              exact first.elim
          | ok shape =>
              rw [grown] at first
              exact induction (fun name line member => included name line
                (List.mem_cons_of_mem _ member)) first

/-- Tokens are assembled only if there is every partial that they ask for. -/
theorem place_all_included {tokens : List Token} {assembly next : Assembly}
    (placed : assembly.placeAll config partials tokens = .ok next) {name : String} {line : Nat}
    (member : .tag (.inclusion name) line ∈ tokens) : ∃ body, partials name = .ok body := by
  induction tokens generalizing assembly with
  | nil => cases member
  | cons token tokens induction =>
      rw [place_all_cons] at placed
      obtain ⟨middle, first, rest⟩ := except_of_bind_ok placed
      rcases List.mem_cons.mp member with rfl | later
      · obtain ⟨body, loaded, _⟩ := except_of_bind_ok first
        exact ⟨body, loaded⟩
      · exact induction rest later

theorem mem_partials_iff {scan : Scan} {name : String} :
    name ∈ scan.partials ↔ ∃ line, .tag (.inclusion name) line ∈ scan.tokens := by
  unfold Scan.partials
  rw [List.mem_filterMap]
  constructor
  · rintro ⟨token, member, named⟩
    split at named
    · cases named
      exact ⟨_, member⟩
    · cases named
  · rintro ⟨line, member⟩
    exact ⟨_, member, rfl⟩

theorem finishes_iff {assembly : Assembly} :
    (∃ segments, assembly.finish = .ok segments) ↔ assembly.openNames = [] := by
  unfold Assembly.openNames
  rw [List.map_eq_nil_iff]
  constructor
  · rintro ⟨segments, finished⟩
    exact (Assembly.finish_ok_iff.mp finished).1
  · intro closed
    exact ⟨_, Assembly.finish_ok_iff.mpr ⟨closed, rfl⟩⟩

theorem has_segments_iff (scan : Scan) :
    (∃ segments, scan.segments config partials = .ok segments) ↔
      (∃ segments, scan.segments other (fun _ => .ok []) = .ok segments) ∧
        ∀ name ∈ scan.partials, ∃ body, partials name = .ok body := by
  have shaped (included : ∀ name ∈ scan.partials, ∃ body, partials name = .ok body) :
      Alike (Assembly.empty.placeAll config partials scan.tokens)
        (Assembly.empty.placeAll other (fun _ => .ok []) scan.tokens) :=
    place_all_alike scan.tokens
      (fun name line member => included name (mem_partials_iff.mpr ⟨line, member⟩)) rfl
  constructor
  · rintro ⟨segments, made⟩
    obtain ⟨complete, assembly, placed, finished⟩ := segments_ok_iff.mp made
    have included : ∀ name ∈ scan.partials, ∃ body, partials name = .ok body := by
      intro name member
      obtain ⟨line, inside⟩ := mem_partials_iff.mp member
      exact place_all_included placed inside
    have alike := shaped included
    rw [placed] at alike
    cases grown : Assembly.empty.placeAll other (fun _ => .ok []) scan.tokens with
    | error fault =>
        rw [grown] at alike
        exact alike.elim
    | ok shape =>
        rw [grown] at alike
        obtain ⟨blank, closed⟩ := finishes_iff.mpr (alike ▸ finishes_iff.mp ⟨segments, finished⟩)
        exact ⟨⟨blank, segments_ok_iff.mpr ⟨complete, shape, grown, closed⟩⟩, included⟩
  · rintro ⟨⟨blank, made⟩, included⟩
    obtain ⟨complete, shape, grown, closed⟩ := segments_ok_iff.mp made
    have alike := shaped included
    rw [grown] at alike
    cases placed : Assembly.empty.placeAll config partials scan.tokens with
    | error fault =>
        rw [placed] at alike
        exact alike.elim
    | ok assembly =>
        rw [placed] at alike
        have same : assembly.openNames = shape.openNames := alike
        obtain ⟨segments, finished⟩ :=
          finishes_iff.mpr (same.trans (finishes_iff.mp ⟨blank, closed⟩))
        exact ⟨segments, segments_ok_iff.mpr ⟨complete, assembly, placed, finished⟩⟩

abbrev Segment.Supplied (partials : String → Except Fault (List Segment)) : Segment → Prop :=
  Segment.Embeds fun name body => partials name = .ok body

theorem place_embeds {holds : String → List Segment → Prop} {assembly next : Assembly}
    {token : Token} (supplied : ∀ name body, partials name = .ok body → holds name body)
    (placed : assembly.place config partials token = .ok next)
    (before : assembly.Each (Segment.Embeds holds)) : next.Each (Segment.Embeds holds) := by
  cases token with
  | text content =>
      cases placed
      exact before.add trivial
  | tag tag line =>
      cases tag with
      | interpolation name raw =>
          cases placed
          exact before.add trivial
      | opening inverted name =>
          cases placed
          exact before.openBlock inverted name line
      | closing name =>
          apply before.close _ placed
          intro _ _ _ body inner
          exact (Segment.embeds_all_iff _ body).mpr inner
      | inclusion name =>
          obtain ⟨body, loaded, last⟩ := except_of_bind_ok placed
          cases last
          exact before.add (supplied name body loaded)
      | comment =>
          cases placed
          exact before
      | directive delimiters =>
          cases placed
          exact before

theorem place_all_supplied {tokens : List Token} {assembly next : Assembly}
    (placed : assembly.placeAll config partials tokens = .ok next)
    (before : assembly.Each (Segment.Supplied partials)) :
    next.Each (Segment.Supplied partials) := by
  induction tokens generalizing assembly with
  | nil =>
      cases placed
      exact before
  | cons token tokens induction =>
      rw [place_all_cons] at placed
      obtain ⟨middle, first, rest⟩ := except_of_bind_ok placed
      exact induction rest (place_embeds (fun _ _ loaded => loaded) first before)

/-- The partials that stand in the segments of a source are those that were there. -/
theorem segments_supplied {scan : Scan} {segments : List Segment}
    (made : scan.segments config partials = .ok segments) :
    Segment.EmbedsAll (fun name body => partials name = .ok body) segments := by
  obtain ⟨_, assembly, placed, finished⟩ := segments_ok_iff.mp made
  apply (Segment.embeds_all_iff _ segments).mpr
  exact (place_all_supplied placed .empty).finish finished

end Shape

end Mustache
