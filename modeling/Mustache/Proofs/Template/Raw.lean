import Mustache.Proofs.Template.Reading
import Mustache.Proofs.Token.Stream

/-!
Which tags write without escaping: those that begin with an ampersand and, with the standard
markers, those with three braces. No other way of writing a tag does, whatever the markers are.
-/

namespace Mustache

set_option autoImplicit false

def Piece.isRaw : Piece → Prop
  | .text _ => False
  | .tag delimiters content _ _ =>
      Tag.isTriple delimiters content ∨ (Text.strip content).head? = some '&'

instance : DecidablePred Piece.isRaw
  | .text _ => inferInstanceAs (Decidable False)
  | .tag _ _ _ _ => inferInstanceAs (Decidable (_ ∨ _))

def Source.Cautious (source : Source) : Prop :=
  ∀ piece ∈ (Reading.ofText source.characters).pieces, ¬ piece.isRaw

theorem read_raw {content : List Char} {line : Nat} {name : String}
    (told : Tag.read content line = .ok (.interpolation name true)) :
    (Text.strip content).head? = some '&' := by
  unfold Tag.read at told
  dsimp only at told
  split at told
  · cases told
  · next sigil rest stripped =>
      split_ifs at told with opening inverted closing inclusion comment raw
      · cases require_one_line_ok told
      · cases require_one_line_ok told
      · cases require_one_line_ok told
      · cases told
      · cases told
      · rw [stripped, raw]
        rfl
      · cases require_one_line_ok told

theorem read_before_raw {delimiters : Delimiters} {content after rest : List Char} {line : Nat}
    {name : String}
    (told : Tag.readBefore delimiters content after line = .ok (.interpolation name true, rest)) :
    Tag.isTriple delimiters content ∨ (Text.strip content).head? = some '&' := by
  rcases read_before_cases told with ⟨_, _, directive⟩ | ⟨triple, _⟩ | ⟨_, _, _, plain⟩
  · unfold Tag.readDirective at directive
    split at directive
    · cases updated : delimiters.update (String.ofList content.tail.dropLast) (some line) with
      | error error =>
          rw [updated] at directive
          cases directive
      | ok next =>
          rw [updated] at directive
          cases directive
    · cases directive
  · exact .inl triple
  · unfold Tag.readPlain at plain
    split at plain
    · cases plain
    · exact .inr (read_raw plain)

namespace Reading

theorem told_of_mem (size : Nat) (source : List Char) (sized : source.length = size)
    (delimiters : Delimiters) (line : Nat) (tree : Assembly) {markers : Delimiters}
    {content : List Char} {told : Tag} {closed : Nat}
    (member : .tag markers content told closed ∈ (start delimiters line tree source).pieces) :
    ∃ after rest, Tag.readBefore markers content after closed = .ok (told, rest) := by
  have absent (text : List Char) : .tag markers content told closed ∉ Piece.ofText text := by
    unfold Piece.ofText
    split <;> simp
  induction size using Nat.strong_induction_on generalizing source delimiters line tree with
  | h size induction =>
      cases found : delimiters.find source with
      | nothing =>
          rw [start_of_nothing found] at member
          exact (absent source member).elim
      | unclosed before rest =>
          rw [start_of_unclosed found, behind, unclosed] at member
          rcases List.mem_append.mp member with inside | inside
          · exact (absent before inside).elim
          · split at inside <;> simp at inside
      | tag before inner after =>
          cases read : Tag.readBefore delimiters inner after
              (line + newlines before + newlines inner) with
          | error error =>
              rw [start_of_refused found read] at member
              exact (absent before member).elim
          | ok result =>
              obtain ⟨tag, rest⟩ := result
              have here (same : Piece.tag markers content told closed =
                  .tag delimiters inner tag (line + newlines before + newlines inner)) :
                  ∃ after rest, Tag.readBefore markers content after closed = .ok (told, rest) := by
                cases same
                exact ⟨after, rest, read⟩
              cases placed : tree.growAll ((Piece.ofText before).map Piece.token ++
                  [.tag tag (line + newlines before + newlines inner)]) with
              | error fault =>
                  rw [start_of_misplaced found rfl read placed] at member
                  rcases List.mem_append.mp member with inside | inside
                  · exact (absent before inside).elim
                  · exact here (List.mem_singleton.mp inside)
              | ok next =>
                  rw [start_of_tag found rfl read placed, behind] at member
                  rcases List.mem_append.mp member with inside | later
                  · rcases List.mem_append.mp inside with inside | inside
                    · exact (absent before inside).elim
                    · exact here (List.mem_singleton.mp inside)
                  · have shorter : (passNewline (tag.dropsNewline next)
                        (line + newlines before + newlines inner) rest).2.length < size := by
                      calc
                        _ ≤ rest.length := pass_newline_le _ _ _
                        _ ≤ after.length := read_before_le read
                        _ < source.length := find_tag_shorter found
                        _ = size := sized
                    exact induction _ shorter _ rfl _ _ _ later

end Reading

theorem Source.Cautious.not_raw {source : Source} (cautious : source.Cautious) {name : String}
    {raw : Bool} {line : Nat}
    (member : .tag (.interpolation name raw) line ∈
      (Reading.ofText source.characters).scan.tokens) : raw = false := by
  cases raw with
  | false => rfl
  | true =>
      obtain ⟨piece, inside, made⟩ := List.mem_map.mp member
      cases piece with
      | text content => cases made
      | tag delimiters content told closed =>
          cases made
          obtain ⟨after, rest, read⟩ := Reading.told_of_mem _ _ rfl _ _ _ inside
          exact (cautious _ inside (read_before_raw read)).elim

end Mustache
