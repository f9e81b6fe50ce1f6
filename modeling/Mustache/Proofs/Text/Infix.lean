import Mathlib.Data.List.Infix
import Mustache.Token

/-!
The leftmost occurrence of a marker in a text. `List.dropInfix?` splits a text around it; the
lemmas here follow that search one character at a time, which is how a lexer meets the text.
-/

namespace Mustache.Text

set_option autoImplicit false

variable {needle before after rest : List Char} {c : Char}

private theorem search_with_seen (text seen : List Char) :
    List.dropInfix?.go needle text seen =
      (List.dropInfix?.go needle text []).map fun found => (seen.reverse ++ found.1, found.2) := by
  induction text generalizing seen with
  | nil => by_cases empty : needle.isEmpty <;> simp [List.dropInfix?.go, empty]
  | cons c rest induction =>
      simp only [List.dropInfix?.go]
      cases (c :: rest).dropPrefix? needle with
      | some after => simp
      | none =>
          simp only
          rw [induction (c :: seen), induction [c]]
          simp [Function.comp_def]

theorem search_here (text : List Char) :
    (needle ++ text).dropInfix? needle = some ([], text) := by
  rw [List.dropInfix?_eq_some_iff]
  exact ⟨⟨needle, by simp, by simp⟩, by simp⟩

theorem search_further (absent : ¬ needle <+: c :: rest) :
    (c :: rest).dropInfix? needle =
      (rest.dropInfix? needle).map fun found => (c :: found.1, found.2) := by
  have noPrefix : (c :: rest).dropPrefix? needle = none := by
    cases found : (c :: rest).dropPrefix? needle with
    | none => rfl
    | some after =>
        obtain ⟨start, split, same⟩ := List.dropPrefix?_eq_some_iff.mp found
        rw [beq_iff_eq] at same
        exact (absent ⟨after, by rw [split, same]⟩).elim
  unfold List.dropInfix?
  rw [List.dropInfix?.go, noPrefix, search_with_seen]
  rfl

theorem search_empty (proper : needle ≠ []) : ([] : List Char).dropInfix? needle = none := by
  simp [List.dropInfix?, List.dropInfix?.go, proper]

theorem search_splits {text : List Char} (found : text.dropInfix? needle = some (before, after)) :
    text = before ++ needle ++ after := by
  obtain ⟨⟨middle, split, same⟩, _⟩ := List.dropInfix?_eq_some_iff.mp found
  rw [beq_iff_eq] at same
  rw [split, same]

theorem search_none_iff (proper : needle ≠ []) (text : List Char) :
    text.dropInfix? needle = none ↔ ¬ needle <:+: text := by
  induction text with
  | nil => simp [search_empty proper, proper]
  | cons c rest induction =>
      by_cases starts : needle <+: c :: rest
      · obtain ⟨after, whole⟩ := starts
        have inside : needle <:+: c :: rest := ⟨[], after, whole⟩
        rw [← whole, search_here, whole]
        simp [inside]
      · rw [search_further starts, Option.map_eq_none_iff, induction, List.infix_cons_iff]
        simp [starts]

theorem search_front {text : List Char} (proper : needle ≠ [])
    (found : text.dropInfix? needle = some (before, after)) : before.dropInfix? needle = none := by
  rw [search_none_iff proper]
  rintro ⟨start, tail, rfl⟩
  obtain ⟨⟨middle, split, same⟩, leftmost⟩ := List.dropInfix?_eq_some_iff.mp found
  have shorter := leftmost start needle (tail ++ middle ++ after) (by simp [split]) (by simp)
  have length := List.length_pos_iff.mpr proper
  simp only [List.length_append] at shorter
  omega

/-- Which occurrence is the leftmost one does not depend on what stands behind it. -/
theorem search_ahead {text : List Char} (found : text.dropInfix? needle = some (before, after))
    (rest : List Char) : (before ++ needle ++ rest).dropInfix? needle = some (before, rest) := by
  obtain ⟨⟨marker, split, same⟩, leftmost⟩ := List.dropInfix?_eq_some_iff.mp found
  obtain rfl : marker = needle := by simpa using same
  rw [List.dropInfix?_eq_some_iff]
  refine ⟨⟨marker, rfl, by simp⟩, ?_⟩
  intro start other tail whole alike
  obtain rfl : other = marker := by simpa using alike
  by_contra further
  have length : (start ++ other).length ≤ (before ++ other).length := by
    simp only [List.length_append]
    omega
  have inside : start ++ other <+: before ++ other ++ rest := ⟨tail, whole.symm⟩
  obtain ⟨between, front⟩ := List.prefix_of_prefix_length_le inside
    (List.prefix_append (before ++ other) rest) length
  have earlier := leftmost start other (between ++ after) (by simp [split, ← front]) (by simp)
  omega

/-- A text without the first character of a marker is passed over as a whole. -/
theorem search_past (clean : ∀ c ∈ before, needle.head? ≠ some c) (proper : needle ≠ []) :
    (before ++ rest).dropInfix? needle =
      (rest.dropInfix? needle).map fun found => (before ++ found.1, found.2) := by
  induction before with
  | nil => simp
  | cons c before induction =>
      have absent : ¬ needle <+: c :: (before ++ rest) := by
        intro starts
        cases needle with
        | nil => exact proper rfl
        | cons first others =>
            exact clean c (by simp) (by simp [(List.cons_prefix_cons.mp starts).1])
      rw [List.cons_append, search_further absent,
        induction fun c member => clean c (List.mem_cons_of_mem _ member)]
      simp [Function.comp_def]

/-- A text without a doubled character is passed over, with the different character behind it. -/
theorem search_past_doubled {doubled : Char} (clean : ¬ [doubled, doubled] <:+: before)
    (gap : c ≠ doubled) :
    (before ++ c :: rest).dropInfix? [doubled, doubled] =
      (rest.dropInfix? [doubled, doubled]).map fun found => (before ++ c :: found.1, found.2) := by
  induction before with
  | nil =>
      have absent : ¬ [doubled, doubled] <+: c :: rest := fun starts =>
        gap (List.cons_prefix_cons.mp starts).1.symm
      rw [List.nil_append, search_further absent]
      rfl
  | cons a before induction =>
      have absent : ¬ [doubled, doubled] <+: a :: (before ++ c :: rest) := by
        intro starts
        obtain ⟨first, next⟩ := List.cons_prefix_cons.mp starts
        cases before with
        | nil => exact gap (List.cons_prefix_cons.mp next).1.symm
        | cons b before =>
            have second := (List.cons_prefix_cons.mp next).1
            exact clean ⟨[], before, by simp [← first, ← second]⟩
      rw [List.cons_append, search_further absent,
        induction fun inside => clean (List.infix_cons_iff.mpr (.inr inside))]
      simp [Function.comp_def]

/-- One item of two lists is in the second of them or in the first. -/
theorem split_at {α : Type} {first second before after : List α} {item : α}
    (whole : first ++ second = before ++ item :: after) :
    (∃ between, before = first ++ between ∧ second = between ++ item :: after) ∨
      ∃ tail, first = before ++ item :: tail ∧ after = tail ++ second := by
  rcases List.append_eq_append_iff.mp whole with ⟨between, front, back⟩ | ⟨between, front, back⟩
  · exact .inl ⟨between, front, back⟩
  · cases between with
    | nil =>
        rw [List.append_nil] at front
        exact .inl ⟨[], by rw [front, List.append_nil], back.symm⟩
    | cons head tail =>
        obtain ⟨rfl, rfl⟩ := List.cons.inj back
        exact .inr ⟨tail, front, rfl⟩

theorem occurs_in_iff (needle text : List Char) :
    occursIn needle text = true ↔ needle <:+: text := by
  induction text with
  | nil => simp [occursIn]
  | cons c rest induction =>
      rw [occursIn, Bool.or_eq_true, List.isPrefixOf_iff_prefix, induction, List.infix_cons_iff]

end Mustache.Text
