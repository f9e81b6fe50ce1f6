import Mathlib.Data.List.Infix
import Mustache.Text.Quoted

/-!
What escaping leaves of a text. Nothing that markup could act on remains in it: no quote and no
angle bracket, and no ampersand except at the start of an entity.
-/

namespace Mustache.Text

set_option autoImplicit false

def references : List String := ["&amp;", "&apos;", "&quot;", "&lt;", "&gt;"]

/-- Text that stays text wherever it stands in markup. -/
structure Inert (text : List Char) : Prop where
  unmarked : ∀ c ∈ text, c ∉ ['<', '>', '"', '\'']
  referring : ∀ after, '&' :: after <:+ text →
    ∃ reference ∈ references, reference.toList <+: '&' :: after

theorem inert_of_plain {text : List Char} (plain : ∀ c ∈ text, c ∉ ['<', '>', '"', '\'', '&']) :
    Inert text := by
  constructor
  · intro c member special
    exact plain c member (List.mem_append_left ['&'] special)
  · intro after ends
    exact absurd (by simp) (plain '&' (ends.subset (by simp)))

theorem Inert.append {first second : List Char} (inert : Inert first) (rest : Inert second) :
    Inert (first ++ second) := by
  constructor
  · intro c member
    rcases List.mem_append.mp member with inside | inside
    · exact inert.unmarked c inside
    · exact rest.unmarked c inside
  · rintro after ⟨before, split⟩
    rcases List.append_eq_append_iff.mp split with ⟨left, rfl, ends⟩ | ⟨left, rfl, ends⟩
    · cases left with
      | nil => exact rest.referring after ⟨[], ends⟩
      | cons c left =>
          rw [List.cons_append] at ends
          obtain ⟨rfl, rfl⟩ := List.cons_eq_cons.mp ends
          obtain ⟨reference, known, starts⟩ := inert.referring left ⟨before, rfl⟩
          exact ⟨reference, known, starts.trans (List.prefix_append ('&' :: left) second)⟩
    · exact rest.referring after ⟨left, ends.symm⟩

theorem reference_inert {reference : String} (known : reference ∈ references) :
    Inert reference.toList := by
  have shape : ∀ reference ∈ references,
      reference.toList.all (fun c => c ∉ ['<', '>', '"', '\'']) = true ∧
        reference.toList.head? = some '&' ∧ '&' ∉ reference.toList.tail := by decide
  obtain ⟨unmarked, first, single⟩ := shape reference known
  refine ⟨by simpa using unmarked, fun after ends => ⟨reference, known, ?_⟩⟩
  cases written : reference.toList with
  | nil =>
      rw [written] at first
      cases first
  | cons c tail =>
      rw [written] at ends single
      rcases List.suffix_cons_iff.mp ends with whole | later
      · rw [whole]
      · exact absurd (later.subset (by simp)) single

theorem escape_characters_append (first second : List Char) :
    escapeCharacters (first ++ second) = escapeCharacters first ++ escapeCharacters second := by
  unfold escapeCharacters
  induction entities generalizing first second with
  | nil => rfl
  | cons entity entities induction =>
      have parts : replaceAll entity.1 entity.2.toList (first ++ second) =
          replaceAll entity.1 entity.2.toList first ++
            replaceAll entity.1 entity.2.toList second := List.flatMap_append
      rw [List.foldl_cons, List.foldl_cons, List.foldl_cons, parts, induction]

theorem replace_all_other {c target : Char} (other : c ≠ target) (substitute : List Char) :
    replaceAll target substitute [c] = [c] := by
  simp [replaceAll, other]

/-- The replacements do not get in each other's way. -/
theorem escape_characters_single (c : Char) :
    (∃ reference ∈ references, escapeCharacters [c] = reference.toList) ∨
      c ∉ ['<', '>', '"', '\'', '&'] ∧ escapeCharacters [c] = [c] := by
  by_cases special : c ∈ ['<', '>', '"', '\'', '&']
  · left
    simp only [List.mem_cons, List.not_mem_nil, or_false] at special
    rcases special with rfl | rfl | rfl | rfl | rfl
    · exact ⟨"&lt;", by decide, by decide⟩
    · exact ⟨"&gt;", by decide, by decide⟩
    · exact ⟨"&quot;", by decide, by decide⟩
    · exact ⟨"&apos;", by decide, by decide⟩
    · exact ⟨"&amp;", by decide, by decide⟩
  · refine .inr ⟨special, ?_⟩
    simp only [List.mem_cons, List.not_mem_nil, or_false, not_or] at special
    obtain ⟨less, greater, quote, apostrophe, ampersand⟩ := special
    simp only [escapeCharacters, entities, List.foldl_cons, List.foldl_nil]
    rw [replace_all_other ampersand, replace_all_other apostrophe, replace_all_other quote,
      replace_all_other less, replace_all_other greater]

theorem escape_characters_inert (text : List Char) : Inert (escapeCharacters text) := by
  induction text with
  | nil =>
      have empty : escapeCharacters [] = [] := rfl
      rw [empty]
      exact inert_of_plain (by simp)
  | cons c text induction =>
      rw [← List.singleton_append, escape_characters_append]
      apply Inert.append _ induction
      rcases escape_characters_single c with ⟨reference, known, written⟩ | ⟨plain, written⟩
      · rw [written]
        exact reference_inert known
      · rw [written]
        exact inert_of_plain (by simpa using plain)

end Mustache.Text
