import Mathlib.Data.List.DropRight
import Mustache.Proofs.Token.Seam

/-!
A comment in the middle of a text. It ends the piece of text that it stands in, and behind it a
source is read as from the start: no newline is dropped there, since none is right behind a text.
So the tokens are those without the comment, but for the text that it divides, on lines that count
its own newlines as well.
-/

namespace Mustache

set_option autoImplicit false

def IsRemark (remark : String) : Prop :=
  ¬ ['{', '{'] <:+: remark.toList ∧ ¬ ['}', '}'] <:+: remark.toList ∧
    remark.toList.getLast? ≠ some '}'

instance (remark : String) : Decidable (IsRemark remark) := inferInstanceAs (Decidable (_ ∧ _))

def commentOf (remark : String) : String := "\x7b\x7b!" ++ remark ++ "\x7d\x7d"

/-- A text without the doubled character in it or at its end is found in front of that. -/
theorem Text.search_before_doubled {doubled : Char} {text : List Char}
    (clean : ¬ [doubled, doubled] <:+: text) (ends : text.getLast? ≠ some doubled)
    (rest : List Char) :
    (text ++ ([doubled, doubled] ++ rest)).dropInfix? [doubled, doubled] = some (text, rest) := by
  rcases List.eq_nil_or_concat text with rfl | ⟨front, last, rfl⟩
  · exact search_here rest
  · have other : last ≠ doubled := by simpa using ends
    have inner : ¬ [doubled, doubled] <:+: front := fun inside =>
      clean (inside.trans (List.concat_eq_append ▸ (List.prefix_append front [last]).isInfix))
    rw [List.concat_eq_append, List.append_assoc, List.singleton_append,
      search_past_doubled inner other, search_here]
    rfl

namespace Tag

theorem read_comment (remark : List Char) (line : Nat) :
    Tag.read ('!' :: remark) line = .ok .comment := by
  have shown : Text.isBlank '!' = false := by decide
  have front : Text.trimStart Text.isBlank ('!' :: remark) = '!' :: remark :=
    List.dropWhile_cons_of_neg (by simp [shown])
  have stripped : Text.strip ('!' :: remark) <+: '!' :: remark := by
    rw [Text.strip, Text.trim, front]
    exact List.rdropWhile_prefix Text.isBlank _
  unfold Tag.read
  cases text : Text.strip ('!' :: remark) with
  | nil =>
      rw [Text.strip, Text.trim, front] at text
      have blank := List.rdropWhile_eq_nil_iff.mp text '!' List.mem_cons_self
      rw [shown] at blank
      cases blank
  | cons sigil rest =>
      rw [text] at stripped
      obtain ⟨rfl, _⟩ := List.cons_prefix_cons.mp stripped
      rfl

end Tag

namespace Lexer

theorem Inside.scan_comment {lexer : Lexer} (inside : lexer.Inside)
    (standard : lexer.delimiters = .standard) {remark : String} (plain : IsRemark remark)
    (rest : List Char) :
    lexer.scan ('!' :: remark.toList ++ (['}', '}'] ++ rest)) =
      ((lexer.pass ('!' :: remark.toList)).close .comment).scan rest := by
  obtain ⟨unopened, unclosed, ends⟩ := plain
  have closed : ('!' :: remark.toList ++ (['}', '}'] ++ rest)).dropInfix?
      lexer.delimiters.closing.chars = some ('!' :: remark.toList, rest) := by
    rw [standard]
    refine Text.search_before_doubled ?_ ?_ rest
    · intro within
      rcases List.infix_cons_iff.mp within with ⟨_, starts⟩ | later
      · cases starts
      · exact unclosed later
    · cases text : remark.toList with
      | nil => simp
      | cons c others =>
          rw [text] at ends
          rwa [List.getLast?_cons_cons]
  have told : Tag.readPlain lexer.delimiters ('!' :: remark.toList)
      (lexer.pass ('!' :: remark.toList)).line = .ok .comment := by
    rw [Tag.readPlain, standard, if_neg, Tag.read_comment]
    intro within
    rcases List.infix_cons_iff.mp within with ⟨_, starts⟩ | later
    · cases starts
    · exact unopened later
  have ended : (lexer.pass ('!' :: remark.toList)).endTag =
      (lexer.pass ('!' :: remark.toList)).finishTag ('!' :: remark.toList) := by
    unfold endTag
    rw [pass_content inside.fresh]
    simp
  have delimiters : (lexer.pass ('!' :: remark.toList)).delimiters = lexer.delimiters := rfl
  rw [inside.scan_closed closed, ended, finish_tag_eq, delimiters, told]
  rfl

/-- Behind a comment in the middle of a text a source is read as from the start, moved. -/
theorem Amid.scan_comment {lexer : Lexer} (amid : lexer.Amid) {lines : Nat}
    (counted : lexer.line = start.line + lines) {remark : String} (plain : IsRemark remark)
    (rest : List Char) :
    let behind := lines + newlines remark.toList
    lexer.scan ((commentOf remark).toList ++ rest) = (start.scan rest).moved behind
      (lexer.tokens.reverse ++
        [.text (String.ofList lexer.content), .tag .comment (start.line + behind)]) := by
  intro behind
  obtain ⟨mode, standard, filled, awake⟩ := amid
  have visible := Delimiters.standard_visible
  let hunt := Hunt.forOpening .standard
  have source : (commentOf remark).toList ++ rest =
      hunt.marker.chars ++ ('!' :: remark.toList ++ (['}', '}'] ++ rest)) := by
    simp [commentOf, hunt, Hunt.forOpening, Delimiters.standard, Marker.chars]
  have entered : lexer.enter [] =
      { lexer with
        mode := .tag
        pending := []
        atBlock := false
        tokens := .text (String.ofList lexer.content) :: lexer.tokens } := by
    rw [enter, pass_nil, enterTag, flush_filled filled]
  have inside : (lexer.enter []).Inside := by
    rw [entered]
    exact ⟨rfl, rfl, awake, standard ▸ visible⟩
  have found : lexer.scan (hunt.marker.chars ++ ('!' :: remark.toList ++ (['}', '}'] ++ rest))) =
      (lexer.enter []).scan ('!' :: remark.toList ++ (['}', '}'] ++ rest)) :=
    hunt.scan_found visible.opening_visible standard awake mode (Text.search_here _)
  have closed : (((lexer.enter []).pass ('!' :: remark.toList)).close .comment) =
      start.moved behind (.tag .comment (start.line + behind) ::
        .text (String.ofList lexer.content) :: lexer.tokens) := by
    rw [entered]
    simp [close, emit, blockAfter, pass, moved, start, newlines, behind, counted, standard,
      Nat.add_assoc]
  rw [source, found, inside.scan_comment (by rw [entered]; exact standard) plain, closed,
    scan_moved]
  simp

end Lexer

theorem Scan.moved_further (lines more : Nat) (scan : Scan) :
    scan.moved (lines + more) [] = (scan.moved lines []).moved more [] := by
  have tokens : Token.moved (lines + more) = Token.moved more ∘ Token.moved lines := by
    funext token
    cases token with
    | text content => rfl
    | tag tag line => exact congrArg (Token.tag tag) (Nat.add_assoc line lines more).symm
  have faults : Fault.moved (lines + more) = Fault.moved more ∘ Fault.moved lines := by
    funext fault
    cases fault with
    | parse error =>
        rcases error with ⟨cause, line⟩
        cases line <;> simp [Fault.moved, ParseError.moved, Int.add_assoc]
    | _ => rfl
  simp [Scan.moved, tokens, faults]

theorem Scan.moved_behind_text (lines : Nat) (earlier : List Token) (text : List Char)
    (later : Scan) :
    (Scan.moved 0 (Token.ofText text) later).moved lines earlier =
      later.moved lines (earlier ++ Token.ofText text) := by
  have kept : (Token.ofText text).map (Token.moved lines) = Token.ofText text := by
    unfold Token.ofText
    split <;> rfl
  simp [Scan.moved, kept]

theorem scan_commented {first : String} (ends : EndsInText first) {remark : String}
    (plain : IsRemark remark) (second : String) :
    ∃ (front : List Token) (content text : List Char) (later : Scan) (line : Nat),
      (Source.text first).scan = ⟨front ++ [.text (String.ofList content)], none⟩ ∧
      (Source.text (first ++ second)).scan = later.moved (newlines first.toList)
        (front ++ [.text (String.ofList (content ++ text))]) ∧
      (Source.text (first ++ (commentOf remark ++ second))).scan =
        later.moved (newlines first.toList + newlines remark.toList)
          (front ++ [.text (String.ofList content), .tag .comment line] ++ Token.ofText text) := by
  obtain ⟨lexer, amid, counted, scanned⟩ := ends.amid
  obtain ⟨text, later, alone, behind⟩ := amid.scan counted second.toList
  refine ⟨lexer.tokens.reverse, lexer.content, text, later,
    Lexer.start.line + (newlines first.toList + newlines remark.toList), ?_, ?_, ?_⟩
  · have nothing := scanned ""
    rw [String.append_empty] at nothing
    exact nothing.trans amid.finish
  · rw [scanned, behind]
  · rw [scanned, String.toList_append, amid.scan_comment counted plain, alone,
      Scan.moved_behind_text]

end Mustache
