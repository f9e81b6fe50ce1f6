import Mustache.Proofs.Delimiters
import Mustache.Proofs.Token.Search
import Mustache.Segment

/-!
Printing segments as a source, with any markers. What is printable are segments without partials
that some source could have been compiled to, and whose texts and names do not contain a character
of the markers. Two texts next to each other would be read as one.
-/

namespace Mustache

set_option autoImplicit false

/-- The characters that make a tag something else than a plain interpolation. -/
def Tag.sigils : List Char := ['#', '^', '/', '>', '!', '&', '=']

structure Tag.Named (name : String) : Prop where
  stripped : Text.strip name.toList = name.toList
  newline : '\n' ∉ name.toList
  carriage : '\r' ∉ name.toList

instance (name : String) : Decidable (Tag.Named name) :=
  decidable_of_iff (Text.strip name.toList = name.toList ∧ '\n' ∉ name.toList ∧
      '\r' ∉ name.toList)
    ⟨fun ⟨stripped, newline, carriage⟩ => ⟨stripped, newline, carriage⟩,
      fun named => ⟨named.stripped, named.newline, named.carriage⟩⟩

namespace Delimiters

def tag (delimiters : Delimiters) (content : List Char) : List Char :=
  delimiters.opening.chars ++ (content ++ delimiters.closing.chars)

def directive (delimiters : Delimiters) : List Char :=
  '=' :: (delimiters.opening.chars ++ ' ' :: delimiters.closing.chars ++ ['='])

def header (delimiters : Delimiters) : List Char :=
  if delimiters = standard then [] else standard.tag delimiters.directive

def Spares (delimiters : Delimiters) (text : List Char) : Prop :=
  ∀ c ∈ text, c ∉ delimiters.opening.chars ++ delimiters.closing.chars

instance (delimiters : Delimiters) (text : List Char) : Decidable (delimiters.Spares text) :=
  List.decidableBAll _ _

/-- Markers that can be announced at the start of a source and do not obscure what a tag says. -/
structure Fit (delimiters : Delimiters) : Prop where
  visible : delimiters.Visible
  apart : delimiters.Spares Tag.sigils
  announced : delimiters = standard ∨
    delimiters.opening.chars ≠ standard.closing.chars ∧
      delimiters.closing.chars ≠ standard.closing.chars

end Delimiters

namespace Segment

def isText : Segment → Bool
  | .text _ => true
  | _ => false

mutual
def print (delimiters : Delimiters) : Segment → List Char
  | .text content => content.toList
  | .interpolation name (.bool false) _ => delimiters.tag ('&' :: name.toList)
  | .interpolation name _ _ => delimiters.tag name.toList
  | .block inverted name _ body =>
      delimiters.tag ((if inverted then '^' else '#') :: name.toList) ++
        '\n' :: (printAll delimiters body ++ (delimiters.tag ('/' :: name.toList) ++ ['\n']))
  | .included name _ _ => delimiters.tag ('>' :: name.toList)
  termination_by structural segment => segment
def printAll (delimiters : Delimiters) : List Segment → List Char
  | [] => []
  | segment :: rest => print delimiters segment ++ printAll delimiters rest
  termination_by structural segments => segments
end

mutual
def Printable (delimiters : Delimiters) : Segment → Prop
  | .text content => content.toList ≠ [] ∧ delimiters.Spares content.toList
  | .interpolation name escaped _ =>
      Tag.Named name ∧ delimiters.Spares name.toList ∧
        (escaped = .bool false ∨
          escaped = .bool true ∧ ∃ first rest, name.toList = first :: rest ∧ first ∉ Tag.sigils)
  | .block _ name _ body =>
      Tag.Named name ∧ delimiters.Spares name.toList ∧ PrintableAll delimiters body
  | .included _ _ _ => False
  termination_by structural segment => segment
def PrintableAll (delimiters : Delimiters) : List Segment → Prop
  | [] => True
  | segment :: rest =>
      Printable delimiters segment ∧
        (segment.isText = true → ∀ next ∈ rest.head?, next.isText = false) ∧
          PrintableAll delimiters rest
  termination_by structural segments => segments
end

mutual
def unlined : Segment → Segment
  | .text content => .text content
  | .interpolation name escaped _ => .interpolation name escaped 0
  | .block inverted name _ body => .block inverted name 0 (unlinedAll body)
  | .included name config body => .included name config (unlinedAll body)
  termination_by structural segment => segment
def unlinedAll : List Segment → List Segment
  | [] => []
  | segment :: rest => unlined segment :: unlinedAll rest
  termination_by structural segments => segments
end

theorem unlined_all_append (segments rest : List Segment) :
    unlinedAll (segments ++ rest) = unlinedAll segments ++ unlinedAll rest := by
  induction segments with
  | nil => rfl
  | cons segment segments induction => simp [unlinedAll, induction]

def source (delimiters : Delimiters) (segments : List Segment) : String :=
  String.ofList (delimiters.header ++ printAll delimiters segments)

end Segment

section Content

variable {name : String} (named : Tag.Named name) (line : Nat)
include named

theorem Tag.Named.one_line {c : Char} (ordinary : c ≠ '\n' ∧ c ≠ '\r') (result : Tag) :
    Tag.requireOneLine (c :: name.toList) line result = .ok result := by
  have newline : '\n' ∉ c :: name.toList := by
    simp [named.newline, Ne.symm ordinary.1]
  have carriage : '\r' ∉ c :: name.toList := by
    simp [named.carriage, Ne.symm ordinary.2]
  simp [Tag.requireOneLine, newline, carriage]

theorem Tag.Named.read_opening (inverted : Bool) :
    Tag.read ((if inverted then '^' else '#') :: name.toList) line =
      .ok (.opening inverted name) := by
  cases inverted with
  | true =>
      have stripped : Text.strip ('^' :: name.toList) = '^' :: name.toList :=
        Text.strip_cons (by decide) named.stripped
      simp [Tag.read, stripped, named.stripped, named.one_line line (c := '^') (by decide)]
  | false =>
      have stripped : Text.strip ('#' :: name.toList) = '#' :: name.toList :=
        Text.strip_cons (by decide) named.stripped
      simp [Tag.read, stripped, named.stripped, named.one_line line (c := '#') (by decide)]

theorem Tag.Named.read_closing : Tag.read ('/' :: name.toList) line = .ok (.closing name) := by
  have stripped : Text.strip ('/' :: name.toList) = '/' :: name.toList :=
    Text.strip_cons (by decide) named.stripped
  simp [Tag.read, stripped, named.stripped, named.one_line line (c := '/') (by decide)]

theorem Tag.Named.read_raw :
    Tag.read ('&' :: name.toList) line = .ok (.interpolation name true) := by
  have stripped : Text.strip ('&' :: name.toList) = '&' :: name.toList :=
    Text.strip_cons (by decide) named.stripped
  simp [Tag.read, stripped, named.stripped, named.one_line line (c := '&') (by decide)]

theorem Tag.Named.read_plain {first : Char} {rest : List Char}
    (written : name.toList = first :: rest) (plain : first ∉ Tag.sigils) :
    Tag.read name.toList line = .ok (.interpolation name false) := by
  have single : Tag.requireOneLine name.toList line (.interpolation name false) =
      .ok (.interpolation name false) := by
    simp [Tag.requireOneLine, named.newline, named.carriage]
  simp only [Tag.sigils, List.mem_cons, List.not_mem_nil, or_false, not_or] at plain
  have whole : String.ofList (first :: rest) = name := by rw [← written, String.ofList_toList]
  rw [written] at single
  simp only [Tag.read, named.stripped]
  simp only [written, plain, if_false, whole, single]

end Content

end Mustache
