import Mustache.Proofs.Template.Reading
import Mustache.Proofs.Template.Shape
import Mustache.Proofs.Token.Scan

/-!
The lexer finds in a source what a search finds. The lexer itself does not know how sections nest,
so it goes on behind a tag that closes what is not open; up to there its tokens are those of the
reading, and compiling never gets further than that.
-/

namespace Mustache

set_option autoImplicit false

/-- The tokens up to the first one that closes what is not open. -/
def settle (failure : Option Fault) : Assembly → List Token → Scan
  | _, [] => ⟨[], failure⟩
  | tree, token :: rest =>
      match tree.grow token with
      | .error fault => ⟨[token], some fault⟩
      | .ok next =>
          let settled := settle failure next rest
          { settled with tokens := token :: settled.tokens }

def Scan.settled (scan : Scan) : Scan := settle scan.failure .empty scan.tokens

theorem settle_grown (failure : Option Fault) {tree next : Assembly} {tokens : List Token}
    (grown : tree.growAll tokens = .ok next) (rest : List Token) :
    settle failure tree (tokens ++ rest) =
      { settle failure next rest with tokens := tokens ++ (settle failure next rest).tokens } := by
  induction tokens generalizing tree with
  | nil =>
      cases grown
      rfl
  | cons token tokens induction =>
      rw [Assembly.growAll, List.foldlM_cons] at grown
      cases placed : tree.grow token with
      | error fault =>
          rw [placed] at grown
          cases grown
      | ok middle =>
          rw [placed] at grown
          rw [List.cons_append, settle, placed]
          simp only [induction grown, List.cons_append]

theorem settle_misplaced {failure : Option Fault} {tree next : Assembly} {tokens : List Token}
    {token : Token} {fault : Fault} (grown : tree.growAll tokens = .ok next)
    (misplaced : next.grow token = .error fault) (rest : List Token) :
    settle failure tree (tokens ++ token :: rest) = ⟨tokens ++ [token], some fault⟩ := by
  rw [settle_grown failure grown, settle, misplaced]

namespace Assembly

def withText (tree : Assembly) (content : List Char) : Assembly :=
  if content = [] then tree else tree.add (.text (String.ofList content))

theorem place_all_text {config : Config} {partials : String → Except Fault (List Segment)}
    (tree : Assembly) (content : List Char) :
    tree.placeAll config partials (Token.ofText content) = .ok (tree.withText content) := by
  unfold Token.ofText withText
  split <;> rfl

theorem grow_all_text (tree : Assembly) (content : List Char) :
    tree.growAll (Token.ofText content) = .ok (tree.withText content) := tree.place_all_text content

theorem grow_all_append {tree next : Assembly} {tokens : List Token}
    (grown : tree.growAll tokens = .ok next) (rest : List Token) :
    tree.growAll (tokens ++ rest) = next.growAll rest := by
  unfold growAll at *
  rw [List.foldlM_append, grown]
  rfl

theorem grow_all_singleton (tree : Assembly) (token : Token) :
    tree.growAll [token] = tree.grow token := by
  unfold growAll
  rw [List.foldlM_cons]
  cases tree.grow token <;> rfl

theorem at_block_with_text (tree : Assembly) (content : List Char) :
    (tree.withText content).atBlock = (tree.atBlock && content.isEmpty) := by
  cases content with
  | nil => simp [withText]
  | cons c rest => simp [withText, add, atBlock]

/-- What the lexer keeps in mind about the tree is right. -/
theorem at_block_grow {tree next : Assembly} {tag : Tag} {line : Nat}
    (grown : tree.grow (.tag tag line) = .ok next) :
    next.atBlock = Lexer.blockAfter tree.atBlock tag := by
  cases tag with
  | interpolation name raw =>
      cases grown
      rfl
  | opening inverted name =>
      cases grown
      rfl
  | closing name =>
      obtain ⟨block, blocks, _, _, rfl⟩ := place_closing_iff.mp grown
      rfl
  | inclusion name =>
      cases grown
      rfl
  | comment =>
      cases grown
      rfl
  | directive delimiters =>
      cases grown
      rfl

end Assembly

theorem settle_texts (failure : Option Fault) (tree : Assembly) (content : List Char)
    (rest : List Token) :
    settle failure tree (Token.ofText content ++ rest) =
      { settle failure (tree.withText content) rest with
        tokens := Token.ofText content ++
          (settle failure (tree.withText content) rest).tokens } :=
  settle_grown failure (tree.grow_all_text content) rest

theorem settle_last_text (failure : Option Fault) (tree : Assembly) (content : List Char) :
    settle failure tree (Token.ofText content) = ⟨Token.ofText content, failure⟩ := by
  have settled := settle_texts failure tree content []
  rw [List.append_nil] at settled
  rw [settled]
  simp [settle]

theorem piece_of_text_tokens (content : List Char) :
    (Piece.ofText content).map Piece.token = Token.ofText content := by
  unfold Piece.ofText Token.ofText
  split <;> rfl

/-- A newline is dropped just when the tree says so. -/
theorem behind_swallow {lexer : Lexer} {before content : List Char} {tag : Tag} {next : Assembly}
    (right : next.atBlock = (lexer.behind before content tag).atBlock) :
    (lexer.behind before content tag).swallow = tag.dropsNewline next := by
  cases tag with
  | directive delimiters => rfl
  | _ => exact right.symm

/-- Tokens for the first tag and all before it are those of a reading, if those behind the tag
are. -/
theorem settle_reads_tag {failure : Option Fault} {tree : Assembly} {tail : List Token}
    {delimiters : Delimiters} {line closed : Nat} {source before content after rest : List Char}
    {tag : Tag} (found : delimiters.find source = .tag before content after)
    (counted : line + newlines before + newlines content = closed)
    (told : Tag.readBefore delimiters content after closed = .ok (tag, rest))
    (follows : ∀ next : Assembly,
      next.atBlock = Lexer.blockAfter (tree.atBlock && before.isEmpty) tag →
      settle failure next tail =
        (Reading.start (tag.delimitersAfter delimiters)
          (passNewline (tag.dropsNewline next) closed rest).1 next
          (passNewline (tag.dropsNewline next) closed rest).2).scan) :
    settle failure tree (Token.ofText before ++ .tag tag closed :: tail) =
      (Reading.start delimiters line tree source).scan := by
  have texts := tree.grow_all_text before
  cases placed : (tree.withText before).grow (.tag tag closed) with
  | error fault =>
      have misplaced : tree.growAll ((Piece.ofText before).map Piece.token ++
          [.tag tag closed]) = .error fault := by
        rw [piece_of_text_tokens, Assembly.grow_all_append texts, Assembly.grow_all_singleton,
          placed]
      rw [settle_misplaced texts placed, Reading.scan,
        Reading.start_of_misplaced found counted told misplaced]
      simp [piece_of_text_tokens, Piece.token]
  | ok next =>
      have all : tree.growAll (Token.ofText before ++ [.tag tag closed]) = .ok next := by
        rw [Assembly.grow_all_append texts, Assembly.grow_all_singleton, placed]
      have atBlock : next.atBlock = Lexer.blockAfter (tree.atBlock && before.isEmpty) tag := by
        rw [Assembly.at_block_grow placed, Assembly.at_block_with_text]
      have settled := settle_grown failure all tail
      rw [List.append_assoc, List.singleton_append] at settled
      rw [← piece_of_text_tokens] at all
      rw [settled, Reading.start_of_tag found counted told all, follows next atBlock]
      simp [Reading.scan, Reading.behind, piece_of_text_tokens, Piece.token]

/-- From any place outside of tags the lexer adds to its tokens what a reading from there finds,
with any tree that the lexer's mind is right about. -/
theorem scan_follows_reading (lexer : Lexer) (source : List Char) (outside : lexer.Outside) :
    ∃ tail failure, lexer.scan source = ⟨lexer.tokens.reverse ++ tail, failure⟩ ∧
      ∀ tree : Assembly, tree.atBlock = lexer.atBlock →
        settle failure tree tail =
          (Reading.start lexer.delimiters lexer.line tree source).scan := by
  induction lexer, source, outside using Lexer.Outside.scan_induction with
  | nothing lexer source outside found =>
      refine ⟨_, _, outside.scan_nothing found, fun tree _ => ?_⟩
      rw [Reading.start_of_nothing found, Reading.scan, piece_of_text_tokens, settle_last_text]
  | unclosed lexer source before rest outside found =>
      have scanned := outside.scan_unclosed found
      by_cases broken : lexer.delimiters.closing.second.isSome ∧
          rest.getLast? = some lexer.delimiters.closing.first
      · rw [if_pos broken] at scanned
        refine ⟨_, _, scanned, fun tree _ => ?_⟩
        have filled : rest ≠ [] := by
          rintro rfl
          simp at broken
        rw [Reading.start_of_unclosed found, Reading.unclosed, if_pos broken, settle_texts,
          settle_last_text]
        simp [Reading.behind, Reading.scan, ← piece_of_text_tokens, Piece.ofText, filled]
      · rw [if_neg broken] at scanned
        refine ⟨_, _, scanned, fun tree _ => ?_⟩
        rw [Reading.start_of_unclosed found, Reading.unclosed, if_neg broken, settle_last_text]
        simp [Reading.behind, Reading.scan, piece_of_text_tokens]
  | refused lexer source before content after error outside found told =>
      have scanned := outside.scan_tag found
      rw [told] at scanned
      refine ⟨_, _, scanned, fun tree _ => ?_⟩
      rw [Reading.start_of_refused found told, Reading.scan, piece_of_text_tokens,
        settle_last_text]
  | passed lexer source before content after tag rest outside found told next left behind
      induction =>
      -- What follows is fixed before any tree is known: the lexer reads on whether or not the tree
      -- takes this tag.
      obtain ⟨tail, failure, later, follows⟩ := induction
      have line : next.line = lexer.line + newlines before + newlines content :=
        Lexer.behind_line outside.fresh before content tag
      refine ⟨_, _, outside.scan_passed found told later, fun tree right => ?_⟩
      apply settle_reads_tag found rfl told
      intro grown atBlock
      have minded : grown.atBlock = next.atBlock := by
        rw [atBlock, right, Lexer.behind_at_block outside.fresh]
      have swallow : next.swallow = tag.dropsNewline grown := behind_swallow minded
      have delimiters : (next.wake left.1).delimiters = tag.delimitersAfter lexer.delimiters :=
        Lexer.behind_delimiters outside.fresh before content tag
      rw [follows grown minded, delimiters, ← swallow, ← line]
      rfl

/-- The tokens of a source, up to one that closes what is not open, are those of its reading. -/
theorem scan_settled (text : String) :
    (Source.text text).scan.settled = (Reading.ofText text.toList).scan := by
  obtain ⟨tail, failure, scanned, follows⟩ :=
    scan_follows_reading Lexer.start text.toList Lexer.start_outside
  have whole : (Source.text text).scan = ⟨tail, failure⟩ := scanned
  rw [whole]
  exact follows .empty rfl

section Compiling

variable {config : Config} {includePartial : String → Compile (List Segment)}

def Assembly.conclude (failure : Option Fault) (assembly : Assembly) : Compile (List Segment) :=
  match failure with
  | some fault => throw fault
  | none => do
      let segments ← liftParse assembly.finish
      record (.compiled segments.length)
      return segments

theorem assemble_settled (failure : Option Fault) (tokens : List Token) (assembly tree : Assembly)
    (same : assembly.openNames = tree.openNames) :
    (assemble config includePartial assembly tokens >>= Assembly.conclude failure) =
      (assemble config includePartial assembly (settle failure tree tokens).tokens >>=
        Assembly.conclude (settle failure tree tokens).failure) := by
  induction tokens generalizing assembly tree with
  | nil => rfl
  | cons token tokens induction =>
      cases token with
      | text content =>
          exact induction (assembly.add (.text content)) (tree.add (.text content)) same
      | tag tag line =>
          cases tag with
          | interpolation name raw =>
              exact induction (assembly.add (.interpolation name _ line))
                (tree.add (.interpolation name _ line)) same
          | opening inverted name =>
              apply induction (assembly.openBlock inverted name line)
                (tree.openBlock inverted name line)
              simpa [Assembly.openBlock, Assembly.openNames] using same
          | closing name =>
              -- The only token that a tree may refuse, and both trees refuse it or neither does.
              rcases close_same same name line with
                ⟨error, refused, shape⟩ | ⟨closed, shape, accepted, grown, still⟩
              · have grown : tree.grow (.tag (.closing name) line) = .error (.parse error) := by
                  change (tree.closeBlock name line).mapError Fault.parse = _
                  rw [shape]
                  rfl
                have placed : placeToken config includePartial assembly
                    (.tag (.closing name) line) = throw (.parse error) := by
                  change liftParse (assembly.closeBlock name line) = _
                  rw [refused]
                  rfl
                rw [settle, grown, assemble, assemble, placed]
                rfl
              · have grown : tree.grow (.tag (.closing name) line) = .ok shape := by
                  change (tree.closeBlock name line).mapError Fault.parse = _
                  rw [grown]
                  rfl
                have placed : placeToken config includePartial assembly
                    (.tag (.closing name) line) = pure closed := by
                  change liftParse (assembly.closeBlock name line) = _
                  rw [accepted]
                  rfl
                rw [settle, grown, assemble, assemble, placed]
                exact induction closed shape still
          | inclusion name =>
              have grown : tree.grow (.tag (.inclusion name) line) =
                  .ok (tree.add (.included name .standard [])) := rfl
              rw [settle, grown]
              simp only [assemble, placeToken, bind_assoc, pure_bind]
              apply congrArg (includePartial name >>= ·)
              funext body
              exact induction (assembly.add (.included name config body))
                (tree.add (.included name .standard []))
                same
          | comment => exact induction assembly tree same
          | directive delimiters => exact induction assembly tree same

theorem compile_settled (scan : Scan) :
    scan.compile config includePartial = scan.settled.compile config includePartial :=
  assemble_settled scan.failure scan.tokens .empty .empty rfl

end Compiling

/-- The lexer finds the pieces that a search for the leftmost markers finds, and compiling a source
inside of any partials is assembling these pieces. -/
theorem source_is_read_by_search (config : Config) (chain : List String) (text : String) :
    (Source.text text).scan.settled = (Reading.ofText text.toList).scan ∧
      config.compileInside chain (.text text) = (do
        let segments ← (Reading.ofText text.toList).scan.compile config
          (includeWith config.loader (compileLevels config config.loader.depth) chain)
        return ⟨segments, config⟩) := by
  refine ⟨scan_settled text, ?_⟩
  rw [Config.compileInside, compile_levels_succ, compile_settled, scan_settled]

end Mustache
