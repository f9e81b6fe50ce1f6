import Mustache.Delimiters
import Mustache.Proofs.Text.Words

/-!
What a directive is accepted as: its words are the two markers, whatever held before. The
characters of markers are never blank.
-/

namespace Mustache

set_option autoImplicit false

theorem Marker.chars_ne_nil (marker : Marker) : marker.chars ≠ [] := by
  simp [Marker.chars]

theorem marker_of_word_iff (word : List Char) (marker : Marker) :
    Marker.ofWord? word = some marker ↔ word = marker.chars := by
  rcases marker with ⟨first, second⟩
  match word with
  | [] => simp [Marker.ofWord?, Marker.chars]
  | [a] => cases second <;> simp [Marker.ofWord?, Marker.chars, eq_comm]
  | [a, b] => cases second <;> simp [Marker.ofWord?, Marker.chars, eq_comm]
  | a :: b :: c :: rest => cases second <;> simp [Marker.ofWord?, Marker.chars]

namespace Delimiters

/-- The characters of both markers can be told from the blanks around them. -/
def Visible (delimiters : Delimiters) : Prop :=
  ∀ c ∈ delimiters.opening.chars ++ delimiters.closing.chars, Text.isBlank c = false

instance (delimiters : Delimiters) : Decidable delimiters.Visible :=
  List.decidableBAll _ _

theorem of_directive_iff (directive : List Char) (delimiters : Delimiters) :
    ofDirective? directive = some delimiters ↔
      Text.words directive = [delimiters.opening.chars, delimiters.closing.chars] := by
  rcases delimiters with ⟨opening, closing⟩
  unfold ofDirective?
  split
  · next first second words =>
      simp only [words, List.cons.injEq, and_true, ← marker_of_word_iff, Option.bind_eq_bind,
        Option.bind_eq_some_iff, Option.some.injEq, mk.injEq]
      constructor
      · rintro ⟨_, firstWord, _, secondWord, rfl, rfl⟩
        exact ⟨firstWord, secondWord⟩
      · rintro ⟨firstWord, secondWord⟩
        exact ⟨opening, firstWord, closing, secondWord, rfl, rfl⟩
  · next other =>
      simp only [reduceCtorEq, false_iff]
      exact other _ _

theorem of_directive_visible {directive : List Char} {delimiters : Delimiters}
    (accepted : ofDirective? directive = some delimiters) : delimiters.Visible := by
  have words := (of_directive_iff directive delimiters).mp accepted
  intro c member
  rcases List.mem_append.mp member with inside | inside
  · exact Text.runs_nonblank directive delimiters.opening.chars
      (by rw [Text.words] at words; simp [words]) c inside
  · exact Text.runs_nonblank directive delimiters.closing.chars
      (by rw [Text.words] at words; simp [words]) c inside

theorem update_visible {delimiters next : Delimiters} {directive : String} {line : Option Int}
    (accepted : delimiters.update directive line = .ok next) : next.Visible := by
  unfold update at accepted
  split at accepted
  · next found read =>
      cases accepted
      exact of_directive_visible read
  · cases accepted

theorem standard_visible : standard.Visible := by decide

namespace Visible

variable {delimiters : Delimiters} (visible : delimiters.Visible)
include visible

theorem not_newline {c : Char} (member : c ∈ delimiters.opening.chars ++ delimiters.closing.chars) :
    c ≠ '\n' := by
  rintro rfl
  exact absurd (visible '\n' member) (by decide)

end Visible

end Delimiters

end Mustache
