import Mathlib.Data.List.DropRight
import Mathlib.Data.List.TakeWhile
import Mustache.Text.Blank

/-!
Words of a text. Every word is a run of characters that are not blank, and a text of such runs with
blanks between them has exactly these runs as its words, so that it splits in no other way. A text
without blanks around it keeps that property behind a further character that is not blank.
-/

namespace Mustache.Text

set_option autoImplicit false

variable {α : Type} {blank : α → Bool}

theorem runs_blank {item : α} (skipped : blank item = true) (rest : List α) :
    runs blank (item :: rest) = runs blank rest := if_pos skipped

theorem runs_shown {item : α} (shown : blank item = false) (rest : List α) :
    runs blank (item :: rest) =
      (item :: rest.takeWhile (!blank ·)) :: runs blank (rest.dropWhile (!blank ·)) := by
  induction rest generalizing item with
  | nil => simp [runs, shown]
  | cons next tail induction =>
      have step : runs blank (item :: next :: tail) =
          match runs blank (next :: tail) with
          | run :: later => if blank next then [item] :: run :: later else (item :: run) :: later
          | [] => [[item]] := by
        refine (if_neg (by simp [shown])).trans ?_
        cases runs blank (next :: tail) <;> rfl
      rw [step]
      cases gap : blank next with
      | true =>
          simp only [List.takeWhile_cons, List.dropWhile_cons, gap, Bool.not_true]
          cases later : runs blank (next :: tail) <;> simp [later]
      | false => simp [induction gap, gap]

theorem runs_nonblank (items : List α) :
    ∀ run ∈ runs blank items, ∀ item ∈ run, blank item = false := by
  induction size : items.length using Nat.strong_induction_on generalizing items with
  | h size induction =>
      cases items with
      | nil => simp [runs]
      | cons item rest =>
          subst size
          cases shown : blank item with
          | true =>
              rw [runs_blank shown]
              exact induction rest.length (by simp) rest rfl
          | false =>
              rw [runs_shown shown]
              intro run member
              rcases List.mem_cons.mp member with rfl | later
              · intro other inside
                rcases List.mem_cons.mp inside with rfl | inside
                · exact shown
                · simpa using List.mem_takeWhile_imp inside
              · have shorter := (List.dropWhile_sublist (l := rest) (!blank ·)).length_le
                exact induction _ (by simp; omega) _ rfl run later

theorem runs_of_shown {word : List α} (proper : word ≠ [])
    (shown : ∀ item ∈ word, blank item = false) (rest : List α)
    (ends : ∀ item ∈ rest.head?, blank item = true) :
    runs blank (word ++ rest) = word :: runs blank rest := by
  cases word with
  | nil => exact (proper rfl).elim
  | cons item word =>
      have visible : ∀ item ∈ word, (!blank item) = true := by
        intro item member
        simp [shown item (List.mem_cons_of_mem _ member)]
      rw [List.cons_append, runs_shown (shown item (by simp)),
        List.takeWhile_append_of_pos visible, List.dropWhile_append_of_pos visible]
      cases rest with
      | nil => simp
      | cons next rest =>
          have gap : blank next = true := ends next (by simp)
          simp [gap]

/-- The words that a text splits into: characters that are not blank, as many as stand together,
with blanks around them. -/
inductive SplitsInto : List Char → List (List Char) → Prop where
  | blanks {gap : List Char} (blank : ∀ c ∈ gap, isBlank c = true) : SplitsInto gap []
  | word {gap word rest : List Char} {words : List (List Char)}
      (blank : ∀ c ∈ gap, isBlank c = true) (proper : word ≠ [])
      (shown : ∀ c ∈ word, isBlank c = false) (ends : ∀ c ∈ rest.head?, isBlank c = true)
      (splits : SplitsInto rest words) : SplitsInto (gap ++ (word ++ rest)) (word :: words)

theorem words_past_blanks {gap : List Char} (blank : ∀ c ∈ gap, isBlank c = true)
    (rest : List Char) : words (gap ++ rest) = words rest := by
  induction gap with
  | nil => rfl
  | cons c gap induction =>
      obtain ⟨here, later⟩ := List.forall_mem_cons.mp blank
      exact (runs_blank here (gap ++ rest)).trans (induction later)

namespace SplitsInto

variable {text : List Char} {parts : List (List Char)}

theorem words_eq (splits : SplitsInto text parts) : words text = parts := by
  induction splits with
  | @blanks gap blank =>
      have past := words_past_blanks blank []
      rwa [List.append_nil] at past
  | @word gap word rest words blank proper shown ends _ induction =>
      rw [words_past_blanks blank]
      exact (runs_of_shown proper shown rest ends).trans (congrArg (word :: ·) induction)

theorem behind_blank {c : Char} (blank : isBlank c = true) (splits : SplitsInto text parts) :
    SplitsInto (c :: text) parts := by
  cases splits with
  | blanks before => exact .blanks (List.forall_mem_cons.mpr ⟨blank, before⟩)
  | @word gap _ _ _ before proper shown ends rest =>
      have gap : ∀ other ∈ c :: gap, isBlank other = true :=
        List.forall_mem_cons.mpr ⟨blank, before⟩
      exact .word gap proper shown ends rest

end SplitsInto

theorem splits_into_words (text : List Char) : SplitsInto text (words text) := by
  induction size : text.length using Nat.strong_induction_on generalizing text with
  | h size induction =>
      subst size
      cases text with
      | nil => exact .blanks (List.forall_mem_nil _)
      | cons c rest =>
          cases shown : isBlank c with
          | true =>
              rw [words, runs_blank shown]
              exact (induction rest.length (by simp) rest rfl).behind_blank shown
          | false =>
              have whole : c :: rest = [] ++ ((c :: rest.takeWhile (!isBlank ·)) ++
                  rest.dropWhile (!isBlank ·)) := by simp
              have shorter := (List.dropWhile_sublist (l := rest) (!isBlank ·)).length_le
              have later := induction (rest.dropWhile (!isBlank ·)).length
                (by simp only [List.length_cons]; omega) _ rfl
              rw [words, runs_shown shown, whole]
              refine .word (List.forall_mem_nil _) (List.cons_ne_nil _ _) ?_ ?_ later
              · intro other inside
                rcases List.mem_cons.mp inside with rfl | inside
                · exact shown
                · simpa using List.mem_takeWhile_imp inside
              · intro next first
                have stops := List.head?_dropWhile_not (!isBlank ·) rest
                rw [Option.mem_def.mp first] at stops
                simpa using stops

theorem splits_into_iff {text : List Char} {parts : List (List Char)} :
    SplitsInto text parts ↔ words text = parts := by
  constructor
  · exact SplitsInto.words_eq
  · rintro rfl
    exact splits_into_words text

theorem strip_cons {c : Char} {text : List Char} (shown : isBlank c = false)
    (stripped : strip text = text) : strip (c :: text) = c :: text := by
  have front : trimStart isBlank (c :: text) = c :: text :=
    List.dropWhile_cons_of_neg (by simp [shown])
  rw [strip, trim, front]
  apply List.rdropWhile_eq_self_iff.mpr
  intro proper
  cases text with
  | nil => simp [shown]
  | cons next rest =>
      have trimmed : List.rdropWhile isBlank (trimStart isBlank (next :: rest)) = next :: rest :=
        stripped
      have last := List.rdropWhile_last_not isBlank (trimStart isBlank (next :: rest))
        (by simp [trimmed])
      rw [List.getLast_cons (by simp)]
      simpa only [trimmed] using last

end Mustache.Text
