import Mustache.Proofs.Text.Escape

/-!
Escaping as a map of characters. The replacements run over the whole text one after the other, and
all but the first meet what earlier ones have written. In that order they come to the same as
replacing each character on its own, and so one reading of the entities undoes them.
-/

namespace Mustache.Text

set_option autoImplicit false

/-- Goes over a text once, from left to right. Where a key begins its replacement is written and the
key is passed over; `passing` is how much of it is still to come. -/
def rewriteFrom (table : List (List Char × List Char)) : (passing : Nat) → List Char → List Char
  | _, [] => []
  | passing + 1, _ :: rest => rewriteFrom table passing rest
  | 0, c :: rest =>
      match table.find? fun entry => entry.1.isPrefixOf (c :: rest) with
      | some (key, replacement) => replacement ++ rewriteFrom table (key.length - 1) rest
      | none => c :: rewriteFrom table 0 rest

def rewrite (table : List (List Char × List Char)) (text : List Char) : List Char :=
  rewriteFrom table 0 text

def entityOf : Char → List Char
  | '&' => "&amp;".toList
  | '\'' => "&apos;".toList
  | '"' => "&quot;".toList
  | '<' => "&lt;".toList
  | '>' => "&gt;".toList
  | c => [c]

def readings : List (List Char × List Char) :=
  entities.map fun entity => (entity.2.toList, [entity.1])

def unescape (text : String) : String := String.ofList (rewrite readings text.toList)

section Rewriting

variable {table : List (List Char × List Char)}

theorem rewrite_passed (key rest : List Char) :
    rewriteFrom table key.length (key ++ rest) = rewrite table rest := by
  induction key with
  | nil => rfl
  | cons c key induction => exact induction

theorem rewrite_key {key : List Char} (proper : key ≠ []) (replacement rest : List Char)
    (found : table.find? (fun entry => entry.1.isPrefixOf (key ++ rest)) =
      some (key, replacement)) :
    rewrite table (key ++ rest) = replacement ++ rewrite table rest := by
  obtain ⟨c, key, rfl⟩ := List.exists_cons_of_ne_nil proper
  unfold rewrite
  rw [List.cons_append, rewriteFrom, ← List.cons_append, found]
  exact congrArg (replacement ++ ·) (rewrite_passed key rest)

theorem rewrite_other {c : Char} {rest : List Char}
    (other : ∀ entry ∈ table, ¬ entry.1 <+: c :: rest) :
    rewrite table (c :: rest) = c :: rewrite table rest := by
  have absent : table.find? (fun entry => entry.1.isPrefixOf (c :: rest)) = none := by
    rw [List.find?_eq_none]
    intro entry member begins
    exact other entry member (List.isPrefixOf_iff_prefix.mp begins)
  unfold rewrite
  rw [rewriteFrom, absent]

end Rewriting

/-- Replacing a character is replacing every occurrence of the text that it is. -/
theorem replace_all_eq_rewrite (target : Char) (substitute text : List Char) :
    replaceAll target substitute text = rewrite [([target], substitute)] text := by
  induction text with
  | nil => rfl
  | cons c text induction =>
      have first : replaceAll target substitute (c :: text) =
          (if c = target then substitute else [c]) ++ replaceAll target substitute text :=
        List.flatMap_cons
      rw [first, induction]
      by_cases same : c = target
      · subst same
        rw [if_pos rfl, ← List.singleton_append]
        exact (rewrite_key (List.cons_ne_nil c []) substitute text (by simp)).symm
      · rw [if_neg same, List.singleton_append]
        refine (rewrite_other ?_).symm
        intro entry member begins
        rw [List.mem_singleton.mp member] at begins
        exact same (List.cons_prefix_cons.mp begins).1.symm

theorem escape_characters_one (c : Char) : escapeCharacters [c] = entityOf c := by
  unfold entityOf
  split
  · decide
  · decide
  · decide
  · decide
  · decide
  · next ampersand apostrophe quote less greater =>
      simp only [escapeCharacters, entities, List.foldl_cons, List.foldl_nil]
      rw [replace_all_other ampersand, replace_all_other apostrophe, replace_all_other quote,
        replace_all_other less, replace_all_other greater]

theorem escape_characters_eq (text : List Char) :
    escapeCharacters text = text.flatMap entityOf := by
  induction text with
  | nil => rfl
  | cons c text induction =>
      rw [← List.singleton_append, escape_characters_append, escape_characters_one, induction,
        List.singleton_append, List.flatMap_cons]

/-- No entity begins like another one, so none is taken for it. -/
theorem rewrite_entity (c : Char) (rest : List Char) :
    rewrite readings (entityOf c ++ rest) = c :: rewrite readings rest := by
  unfold entityOf
  split
  · exact rewrite_key (by decide) ['&'] rest rfl
  · exact rewrite_key (by decide) ['\''] rest rfl
  · exact rewrite_key (by decide) ['"'] rest rfl
  · exact rewrite_key (by decide) ['<'] rest rfl
  · exact rewrite_key (by decide) ['>'] rest rfl
  · next ampersand _ _ _ _ =>
      rw [List.singleton_append]
      apply rewrite_other
      intro entry member begins
      have marked : ∀ entry ∈ readings, entry.1.head? = some '&' := by decide
      obtain ⟨after, split⟩ := begins
      have first : entry.1.head? = some '&' := marked entry member
      cases written : entry.1 with
      | nil =>
          rw [written] at first
          cases first
      | cons d key =>
          rw [written] at first split
          cases first
          exact ampersand (List.cons_eq_cons.mp split).1.symm

theorem unescape_escape (text : String) : unescape (escape text) = text := by
  have undone (text : List Char) : rewrite readings (text.flatMap entityOf) = text := by
    induction text with
    | nil => rfl
    | cons c text induction => rw [List.flatMap_cons, rewrite_entity, induction]
  unfold unescape escape
  rw [String.toList_ofList, escape_characters_eq, undone, String.ofList_toList]

/-- The replacements, each of which goes over the whole text, come to replacing every character on
its own. What they write is inert, and reading the entities in it once gives the text back. -/
theorem escaping_maps_characters :
    (∀ text : String, (escape text).toList = entities.foldl
      (fun text entity => rewrite [([entity.1], entity.2.toList)] text) text.toList) ∧
    (∀ text : String, (escape text).toList = text.toList.flatMap entityOf) ∧
    (∀ text other : String, escape (text ++ other) = escape text ++ escape other) ∧
    (∀ text : String, Inert (escape text).toList) ∧
    (∀ text : String, unescape (escape text) = text) ∧
    Function.Injective escape := by
  refine ⟨?_, ?_, ?_, ?_, unescape_escape, ?_⟩
  · intro text
    have passes : (fun text (entity : Char × String) =>
        rewrite [([entity.1], entity.2.toList)] text) =
          fun text entity => replaceAll entity.1 entity.2.toList text := by
      funext text entity
      exact (replace_all_eq_rewrite entity.1 entity.2.toList text).symm
    rw [passes, escape, String.toList_ofList]
    rfl
  · intro text
    rw [escape, String.toList_ofList, escape_characters_eq]
  · intro text other
    apply String.toList_inj.mp
    simp only [escape, String.toList_append, String.toList_ofList, escape_characters_append]
  · intro text
    rw [escape, String.toList_ofList]
    exact escape_characters_inert text.toList
  · exact Function.LeftInverse.injective unescape_escape

/-- An entity that the text has already is escaped like any other text. -/
example : escape "<&lt;>" = "&lt;&amp;lt;&gt;" ∧ unescape "&lt;&amp;lt;&gt;" = "<&lt;>" := by
  decide +kernel

end Mustache.Text
