import Mathlib.Data.List.Infix
import Mustache.Libraries
import Mustache.Text.Utf8

/-!
Which texts are written without their styles as they are: just those in which no style stands. The
rest of a text stays in its order, so that octets can encode what is left of a text that they can
encode.
-/

namespace Mustache.Text

set_option autoImplicit false

def IsStyle (style : List Char) : Prop :=
  ∃ parameters final, style = escapeCharacter :: '[' :: (parameters ++ [final]) ∧
    (∀ c ∈ parameters, isStyleParameter c = true) ∧ final.isAlpha = true

def Unstyled (text : List Char) : Prop := ∀ style, IsStyle style → ¬ style <:+: text

theorem parameter_not_letter {c : Char} (letter : c.isAlpha = true) :
    isStyleParameter c = false := by
  have upper (is : c.isUpper = true) : 65 ≤ c.toNat :=
    UInt32.le_iff_toNat_le.mp (of_decide_eq_true is).1
  have lower (is : c.isLower = true) : 97 ≤ c.toNat :=
    UInt32.le_iff_toNat_le.mp (of_decide_eq_true ((Bool.and_eq_true _ _).mp is).1)
  have digit (is : c.isDigit = true) : c.toNat ≤ 57 :=
    UInt32.le_iff_toNat_le.mp (of_decide_eq_true ((Bool.and_eq_true _ _).mp is).2)
  have large : 65 ≤ c.toNat := by
    rcases (Bool.or_eq_true c.isUpper c.isLower).mp letter with is | is
    · exact upper is
    · exact (by decide : 65 ≤ 97).trans (lower is)
  cases parameter : isStyleParameter c with
  | false => rfl
  | true =>
      simp only [isStyleParameter, Bool.or_eq_true, decide_eq_true_eq] at parameter
      rcases parameter with (rfl | rfl) | is
      · cases letter
      · cases letter
      · exact absurd (large.trans (digit is)) (by decide)

theorem drop_style_iff {text after : List Char} :
    dropStyle? text = some after ↔ ∃ style, IsStyle style ∧ text = style ++ after := by
  constructor
  · intro dropped
    unfold dropStyle? at dropped
    split at dropped
    · next c rest =>
        split at dropped
        · next escapes =>
            split at dropped
            · next final tail parameters =>
                split at dropped
                · next letter =>
                    obtain rfl := Option.some.inj dropped
                    refine ⟨c :: '[' :: (rest.takeWhile isStyleParameter ++ [final]),
                      ⟨_, final, by rw [escapes], ?_, letter⟩, ?_⟩
                    · exact List.all_eq_true.mp List.all_takeWhile
                    · rw [List.cons_append, List.cons_append, List.append_assoc,
                        List.singleton_append, ← parameters, List.takeWhile_append_dropWhile]
                · cases dropped
            · cases dropped
        · cases dropped
    · cases dropped
  · rintro ⟨_, ⟨parameters, final, rfl, all, letter⟩, rfl⟩
    have rest : (parameters ++ final :: after).dropWhile isStyleParameter = final :: after := by
      rw [List.dropWhile_append_of_pos all,
        List.dropWhile_cons_of_neg (by simp [parameter_not_letter letter])]
    simp only [dropStyle?, List.cons_append, List.append_assoc, List.nil_append, if_pos, rest,
      letter]

theorem strip_sublist (text : List Char) : (stripStyles text).Sublist text := by
  fun_induction stripStyles text with
  | case1 text after dropped induction =>
      obtain ⟨style, _, rfl⟩ := drop_style_iff.mp dropped
      exact induction.trans (List.sublist_append_right style after)
  | case2 => exact .slnil
  | case3 c rest _ induction => exact induction.cons_cons c

theorem unstyled_cons {c : Char} {rest : List Char} (none : dropStyle? (c :: rest) = none) :
    Unstyled (c :: rest) ↔ Unstyled rest := by
  constructor
  · intro unstyled style is inside
    exact unstyled style is (inside.trans (List.suffix_cons c rest).isInfix)
  · intro unstyled style is inside
    rcases List.infix_cons_iff.mp inside with ⟨after, split⟩ | later
    · rw [drop_style_iff.mpr ⟨style, is, split.symm⟩] at none
      cases none
    · exact unstyled style is later

theorem strip_eq_iff (text : List Char) : stripStyles text = text ↔ Unstyled text := by
  fun_induction stripStyles text with
  | case1 text after dropped induction =>
      obtain ⟨style, is, split⟩ := drop_style_iff.mp dropped
      constructor
      · intro same
        obtain ⟨_, _, rfl, _⟩ := is
        have kept := (strip_sublist after).length_le
        rw [same, split] at kept
        simp only [List.cons_append, List.length_cons, List.length_append] at kept
        omega
      · intro unstyled
        exact absurd ⟨[], after, by rw [split]; rfl⟩ (unstyled style is)
  | case2 =>
      refine ⟨?_, fun _ => rfl⟩
      rintro _ style ⟨_, _, rfl, _⟩ inside
      cases List.infix_nil.mp inside
  | case3 c rest none induction =>
      rw [unstyled_cons none, ← induction, List.cons_inj_right]

/-- Styles are taken out of texts that have some, and nothing is put in their place. -/
structure Unstyles (unstyled : List Char → List Char) : Prop where
  sublist : ∀ text, (unstyled text).Sublist text
  fixes : ∀ text, unstyled text = text ↔ Unstyled text

theorem strip_unstyles : Unstyles stripStyles := ⟨strip_sublist, strip_eq_iff⟩

theorem Unstyles.encodable {unstyled : List Char → List Char} (unstyles : Unstyles unstyled)
    {text : List Char} (encodable : isEncodable text = true) :
    isEncodable (unstyled text) = true := by
  unfold isEncodable at encodable ⊢
  rw [List.all_eq_true] at encodable ⊢
  exact fun c member => encodable c ((unstyles.sublist text).subset member)

end Mustache.Text
