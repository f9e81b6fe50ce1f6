import Mustache.Proofs.Template.Printed
import Mustache.Proofs.Template.Refinement

/-!
Printed segments are read back, whatever the markers. What has been printed is read piece by piece
in front of any text that does not continue its last piece, into whatever tree is there already.
-/

namespace Mustache

set_option autoImplicit false

variable {delimiters : Delimiters}

namespace Delimiters

def Ready (delimiters : Delimiters) (rest : List Char) : Prop :=
  rest = [] ∨ delimiters.opening.chars <+: rest

theorem tag_append_ready (content rest : List Char) :
    delimiters.Ready (delimiters.tag content ++ rest) :=
  .inr ⟨content ++ delimiters.closing.chars ++ rest, by simp [tag]⟩

section Searching

variable {text rest : List Char}

theorem past_opening (absent : delimiters.opening.first ∉ text) :
    (text ++ rest).dropInfix? delimiters.opening.chars =
      (rest.dropInfix? delimiters.opening.chars).map fun found => (text ++ found.1, found.2) := by
  apply Text.search_past _ delimiters.opening.chars_ne_nil
  rintro c member ⟨⟩
  exact absent member

namespace Spares

theorem not_first (spared : delimiters.Spares text) : delimiters.opening.first ∉ text :=
  fun member => spared _ member (by simp [Marker.chars])

theorem past_closing (spared : delimiters.Spares text) :
    (text ++ rest).dropInfix? delimiters.closing.chars =
      (rest.dropInfix? delimiters.closing.chars).map fun found => (text ++ found.1, found.2) := by
  apply Text.search_past _ delimiters.closing.chars_ne_nil
  intro c member same
  exact spared c member (List.mem_append_right _ (List.mem_of_mem_head? same))

theorem not_opening (spared : delimiters.Spares text) :
    ¬ delimiters.opening.chars <:+: text :=
  fun inside => spared.not_first (inside.subset (by simp [Marker.chars]))

theorem cons {c : Char} (sigil : delimiters.Spares [c]) (spared : delimiters.Spares text) :
    delimiters.Spares (c :: text) := by
  intro other member
  rcases List.mem_cons.mp member with rfl | member
  · exact sigil other (by simp)
  · exact spared other member

theorem find_tag (spared : delimiters.Spares text) :
    delimiters.find (delimiters.tag text ++ rest) = .tag [] text rest := by
  refine find_tag_iff.mpr ⟨text ++ (delimiters.closing.chars ++ rest), ?_, ?_⟩
  · rw [tag, List.append_assoc, List.append_assoc, Text.search_here]
  · rw [spared.past_closing, Text.search_here]
    simp

end Spares

end Searching

theorem Fit.spares_sigil (fit : delimiters.Fit) {sigil : Char} (sigils : sigil ∈ Tag.sigils) :
    delimiters.Spares [sigil] := by
  intro c member
  rw [List.mem_singleton.mp member]
  exact fit.apart sigil sigils

end Delimiters

namespace Reading

variable {line : Nat} {tree : Assembly} {text rest : List Char}

/-- Text in which no marker can begin is read on its own. -/
theorem start_past_text (absent : delimiters.opening.first ∉ text)
    (ready : delimiters.Ready rest) :
    start delimiters line tree (text ++ rest) =
      (start delimiters (line + newlines text) (tree.withText text) rest).behind
        (Piece.ofText text) := by
  rcases ready with rfl | ⟨rest, rfl⟩
  · have nothing : delimiters.find [] = .nothing :=
      find_nothing_iff.mpr (Text.search_empty delimiters.opening.chars_ne_nil)
    have whole : delimiters.find (text ++ []) = .nothing := by
      rw [find_nothing_iff, Delimiters.past_opening absent, find_nothing_iff.mp nothing]
      rfl
    rw [start_of_nothing nothing, start_of_nothing whole]
    simp [behind, Piece.ofText]
  · have opened : (delimiters.opening.chars ++ rest).dropInfix? delimiters.opening.chars =
        some ([], rest) := Text.search_here rest
    have behindText : (text ++ (delimiters.opening.chars ++ rest)).dropInfix?
        delimiters.opening.chars = some (text, rest) := by
      rw [Delimiters.past_opening absent, opened]
      simp
    cases closed : rest.dropInfix? delimiters.closing.chars with
    | none =>
        rw [start_of_unclosed (find_unclosed_iff.mpr ⟨behindText, closed⟩),
          start_of_unclosed (find_unclosed_iff.mpr ⟨opened, closed⟩)]
        simp [Piece.ofText, newlines, Nat.add_assoc]
    | some parts =>
        obtain ⟨content, after⟩ := parts
        have whole : delimiters.find (text ++ (delimiters.opening.chars ++ rest)) =
            .tag text content after := find_tag_iff.mpr ⟨rest, behindText, closed⟩
        have alone : delimiters.find (delimiters.opening.chars ++ rest) =
            .tag [] content after := find_tag_iff.mpr ⟨rest, opened, closed⟩
        have counted : line + newlines text + newlines [] + newlines content =
            line + newlines text + newlines content := by simp [newlines]
        cases told : Tag.readBefore delimiters content after
            (line + newlines text + newlines content) with
        | error error =>
            rw [start_of_refused whole told, start_of_refused alone (by rw [counted, told])]
            simp [behind, Piece.ofText]
        | ok result =>
            obtain ⟨tag, left⟩ := result
            have texts := tree.grow_all_text text
            rw [← piece_of_text_tokens] at texts
            cases grown : (tree.withText text).grow
                (.tag tag (line + newlines text + newlines content)) with
            | error fault =>
                rw [start_of_misplaced whole rfl told
                    (by rw [Assembly.grow_all_append texts, Assembly.grow_all_singleton, grown]),
                  start_of_misplaced alone counted told
                    ((Assembly.grow_all_singleton _ _).trans grown)]
                simp [behind, Piece.ofText]
            | ok next =>
                rw [start_of_tag whole rfl told
                    (by rw [Assembly.grow_all_append texts, Assembly.grow_all_singleton, grown]),
                  start_of_tag alone counted told
                    ((Assembly.grow_all_singleton _ _).trans grown)]
                simp [Piece.ofText]

/-- A tag is read on its own if none of its characters belongs to a marker. -/
theorem start_past_tag {tag : Tag} {next : Assembly} {closed : Nat}
    (spared : delimiters.Spares text) (plain : text.head? ≠ some '=')
    (counted : line + newlines text = closed) (told : Tag.read text closed = .ok tag)
    (grown : tree.grow (.tag tag closed) = .ok next) :
    start delimiters line tree (delimiters.tag text ++ rest) =
      (start (tag.delimitersAfter delimiters)
        (passNewline (tag.dropsNewline next) closed rest).1 next
        (passNewline (tag.dropsNewline next) closed rest).2).behind
          [.tag delimiters text tag closed] := by
  have single : ¬ Tag.isTriple delimiters text := by
    rintro ⟨rfl, brace⟩
    exact spared '{' (List.mem_of_mem_head? brace) (by decide)
  have read : Tag.readBefore delimiters text rest closed = .ok (tag, rest) := by
    unfold Tag.readBefore Tag.readPlain
    rw [if_neg plain, if_neg single, if_neg spared.not_opening, told]
    rfl
  exact start_of_tag spared.find_tag counted read
    ((Assembly.grow_all_singleton _ _).trans grown)

end Reading

namespace Assembly

def addAll (assembly : Assembly) (segments : List Segment) : Assembly :=
  { assembly with current := segments.reverse ++ assembly.current }

theorem add_all_append (assembly : Assembly) (segments rest : List Segment) :
    assembly.addAll (segments ++ rest) = (assembly.addAll segments).addAll rest := by
  simp [addAll]

theorem close_block_opened (assembly : Assembly) (inverted : Bool) (name : String)
    (line closed : Nat) (body : List Segment) :
    ((assembly.openBlock inverted name line).addAll body).closeBlock name closed =
      .ok (assembly.add (.block inverted name line body)) := by
  simp [openBlock, addAll, closeBlock, add]

theorem grow_closing_opened (tree : Assembly) (inverted : Bool) (name : String)
    (line closed : Nat) (body : List Segment) :
    ((tree.openBlock inverted name line).addAll body).grow (.tag (.closing name) closed) =
      .ok (tree.add (.block inverted name line body)) := by
  change (((tree.openBlock inverted name line).addAll body).closeBlock name closed).mapError
    Fault.parse = _
  rw [close_block_opened]
  rfl

end Assembly

theorem assemble_append {config : Config} {includePartial : String → Compile (List Segment)}
    {assembly next : Assembly} {tokens : List Token}
    (assembled : assemble config includePartial assembly tokens = pure next)
    (rest : List Token) :
    assemble config includePartial assembly (tokens ++ rest) =
      assemble config includePartial next rest := by
  rw [assemble_bind, assembled, pure_bind]

/-- Tokens that make the body of a section make the section between its two tags. -/
theorem assemble_block {config : Config} {includePartial : String → Compile (List Segment)}
    {assembly : Assembly} {inverted : Bool} {name : String} {line : Nat} {tokens : List Token}
    {body : List Segment}
    (within : assemble config includePartial (assembly.openBlock inverted name line) tokens =
      pure ((assembly.openBlock inverted name line).addAll body)) (closed : Nat) :
    assemble config includePartial assembly
      (.tag (.opening inverted name) line :: (tokens ++ [.tag (.closing name) closed])) =
        pure (assembly.add (.block inverted name line body)) := by
  have opens : placeToken config includePartial assembly (.tag (.opening inverted name) line) =
      pure (assembly.openBlock inverted name line) := rfl
  rw [assemble, opens, pure_bind, assemble_append within]
  simp only [assemble, placeToken, Assembly.close_block_opened, bind_pure]
  rfl

/-- Where escaping is on the pieces add these segments, whatever there is before them. -/
def Assembles (pieces : List Piece) (segments : List Segment) : Prop :=
  ∀ config : Config, config.options.escapeHtml = .bool true → ∀ includePartial assembly,
    assemble config includePartial assembly (pieces.map Piece.token) =
      pure (assembly.addAll segments)

/-- In front of this rest, and starting on this line, the text is read as pieces that make these
segments, whatever there is before them. -/
def ReadsAs (delimiters : Delimiters) (text rest : List Char) (line : Nat)
    (segments : List Segment) : Prop :=
  ∃ pieces later,
    Assembles pieces segments ∧ ∀ tree : Assembly,
      Reading.start delimiters line tree (text ++ rest) =
        (Reading.start delimiters later (tree.addAll segments) rest).behind pieces

/-- On any line the text is read as these segments, up to the lines that they remember. -/
def Reads (delimiters : Delimiters) (text rest : List Char) (segments : List Segment) : Prop :=
  ∀ line, ∃ read, Segment.unlinedAll read = Segment.unlinedAll segments ∧
    ReadsAs delimiters text rest line read

namespace Reads

variable {rest : List Char}

theorem nothing : Reads delimiters [] rest [] :=
  fun line => ⟨[], rfl, [], line, fun _ _ _ _ => rfl, fun _ => rfl⟩

theorem append {first second : List Char} {segments others : List Segment}
    (before : Reads delimiters first (second ++ rest) segments)
    (after : Reads delimiters second rest others) :
    Reads delimiters (first ++ second) rest (segments ++ others) := by
  intro line
  obtain ⟨read, same, pieces, middle, assembled, reading⟩ := before line
  obtain ⟨read', same', pieces', later, assembled', reading'⟩ := after middle
  refine ⟨read ++ read', ?_, pieces ++ pieces', later,
    fun config escaping includePartial assembly => ?_, fun tree => ?_⟩
  · rw [Segment.unlined_all_append, Segment.unlined_all_append, same, same']
  · rw [List.map_append, assemble_append (assembled config escaping includePartial assembly),
      assembled' config escaping, Assembly.add_all_append]
  · rw [List.append_assoc, reading, reading', Reading.behind_behind, Assembly.add_all_append]

theorem text {content : String} (proper : content.toList ≠ [])
    (spared : delimiters.Spares content.toList) (ready : delimiters.Ready rest) :
    Reads delimiters content.toList rest [.text content] := by
  intro line
  refine ⟨_, rfl, Piece.ofText content.toList, line + newlines content.toList,
    fun config escaping includePartial assembly => ?_, fun tree => ?_⟩
  · rw [Piece.ofText, if_neg proper]
    simp only [List.map_singleton, Piece.token, String.ofList_toList]
    rfl
  · rw [Reading.start_past_text spared.not_first ready]
    simp only [Assembly.withText, if_neg proper, String.ofList_toList]
    rfl

theorem interpolation {content : List Char} {name : String} {raw : Bool} {line : Nat}
    (spared : delimiters.Spares content) (plain : content.head? ≠ some '=')
    (told : ∀ line, Tag.read content line = .ok (.interpolation name raw)) :
    Reads delimiters (delimiters.tag content) rest
      [.interpolation name (.bool (!raw)) line] := by
  intro start
  let closed := start + newlines content
  refine ⟨[.interpolation name (.bool (!raw)) closed], rfl,
    [.tag delimiters content (.interpolation name raw) closed], closed,
    fun config escaping includePartial assembly => ?_, fun tree => ?_⟩
  · cases raw with
    | true => rfl
    | false =>
        simp only [List.map_singleton, Piece.token, assemble, placeToken, Bool.false_eq_true,
          if_false, escaping]
        rfl
  · have grown : tree.grow (.tag (.interpolation name raw) closed) =
        .ok (tree.add (.interpolation name (.bool (!raw)) closed)) := by
      cases raw <;> rfl
    rw [Reading.start_past_tag spared plain rfl (told closed) grown]
    have kept : passNewline (Tag.dropsNewline
        (tree.add (.interpolation name (.bool (!raw)) closed)) (.interpolation name raw))
        closed rest = (closed, rest) := by
      cases rest <;> rfl
    rw [kept]
    rfl

/-- The newlines behind both tags of a section belong to it. -/
theorem block {inverted : Bool} {name : String} {line : Nat} {body : List Char}
    {segments : List Segment} (fit : delimiters.Fit) (named : Tag.Named name)
    (spared : delimiters.Spares name.toList)
    (inside : Reads delimiters body (delimiters.tag ('/' :: name.toList) ++ '\n' :: rest)
      segments) :
    Reads delimiters
      (delimiters.tag ((if inverted then '^' else '#') :: name.toList) ++
        '\n' :: (body ++ (delimiters.tag ('/' :: name.toList) ++ ['\n'])))
      rest [.block inverted name line segments] := by
  intro start
  let opened := (if inverted then '^' else '#') :: name.toList
  have openingSpared : delimiters.Spares opened := by
    have sigil : (if inverted then '^' else '#') ∈ Tag.sigils := by
      cases inverted <;> decide
    exact .cons (fit.spares_sigil sigil) spared
  have openingPlain : opened.head? ≠ some '=' := by
    cases inverted <;> simp [opened]
  have closingSpared : delimiters.Spares ('/' :: name.toList) :=
    .cons (fit.spares_sigil (by decide)) spared
  let first := start + newlines opened
  obtain ⟨read, same, pieces, middle, assembled, reading⟩ := inside (first + 1)
  let last := middle + newlines ('/' :: name.toList)
  refine ⟨[.block inverted name first read], ?_,
    .tag delimiters opened (.opening inverted name) first ::
      (pieces ++ [.tag delimiters ('/' :: name.toList) (.closing name) last]), last + 1,
    fun config escaping includePartial assembly => ?_, fun tree => ?_⟩
  · simp only [Segment.unlinedAll, Segment.unlined, same]
  · have within := assembled config escaping includePartial (assembly.openBlock inverted name first)
    rw [List.map_cons, List.map_append]
    exact assemble_block within last
  · have opens : tree.grow (.tag (.opening inverted name) first) =
        .ok (tree.openBlock inverted name first) := rfl
    have closes := tree.grow_closing_opened inverted name first last read
    have dropsFirst (source : List Char) : passNewline
        (Tag.dropsNewline (tree.openBlock inverted name first) (.opening inverted name)) first
        ('\n' :: source) = (first + 1, source) := rfl
    have dropsLast : passNewline
        (Tag.dropsNewline (tree.add (.block inverted name first read)) (.closing name)) last
        ('\n' :: rest) = (last + 1, rest) := rfl
    simp only [List.append_assoc, List.cons_append, List.nil_append]
    rw [Reading.start_past_tag openingSpared openingPlain rfl (named.read_opening first inverted)
      opens, dropsFirst]
    dsimp only [Tag.delimitersAfter]
    rw [reading,
      Reading.start_past_tag closingSpared (by simp) rfl (named.read_closing last) closes,
      dropsLast]
    simp only [Reading.behind_behind]
    rfl

end Reads

namespace Segment

/-- Whatever is printed as tags begins with a marker. -/
theorem print_ready {segment : Segment} (printable : segment.Printable delimiters)
    (tags : segment.isText = false) (rest : List Char) :
    delimiters.Ready (segment.print delimiters ++ rest) := by
  cases segment with
  | text content => cases tags
  | interpolation name escaped line =>
      obtain ⟨_, _, rfl | ⟨rfl, _⟩⟩ := printable
      · exact delimiters.tag_append_ready _ rest
      · exact delimiters.tag_append_ready _ rest
  | block inverted name line body =>
      rw [print, List.append_assoc]
      exact delimiters.tag_append_ready _ _
  | included name config body => exact printable.elim

theorem print_all_ready {segments : List Segment} (printable : PrintableAll delimiters segments)
    (tags : ∀ next ∈ segments.head?, next.isText = false) {rest : List Char}
    (ready : delimiters.Ready rest) : delimiters.Ready (printAll delimiters segments ++ rest) := by
  cases segments with
  | nil => exact ready
  | cons segment segments =>
      rw [printAll, List.append_assoc]
      exact print_ready printable.1 (tags segment rfl) _

mutual
theorem reads_print (fit : delimiters.Fit) (segment : Segment) (rest : List Char)
    (printable : segment.Printable delimiters)
    (ends : segment.isText = true → delimiters.Ready rest) :
    Reads delimiters (segment.print delimiters) rest [segment] := by
  match segment with
  | .text content =>
      obtain ⟨proper, spared⟩ := printable
      exact .text proper spared (ends rfl)
  | .interpolation name escaped line =>
      obtain ⟨named, spared, rfl | ⟨rfl, first, others, written, plain⟩⟩ := printable
      · exact .interpolation (.cons (fit.spares_sigil (by decide)) spared) (by simp) named.read_raw
      · have sigil : name.toList.head? ≠ some '=' := by
          rintro same
          rw [written] at same
          cases same
          exact plain (by decide)
        exact .interpolation spared sigil fun line => named.read_plain line written plain
  | .block inverted name line body =>
      obtain ⟨named, spared, inner⟩ := printable
      exact .block fit named spared
        (reads_print_all fit body _ inner (delimiters.tag_append_ready _ _))
  | .included name config body => exact printable.elim
  termination_by structural segment
theorem reads_print_all (fit : delimiters.Fit) (segments : List Segment) (rest : List Char)
    (printable : PrintableAll delimiters segments) (ready : delimiters.Ready rest) :
    Reads delimiters (printAll delimiters segments) rest segments := by
  match segments with
  | [] => exact .nothing
  | segment :: segments =>
      obtain ⟨first, apart, others⟩ := printable
      have ends (texts : segment.isText = true) :
          delimiters.Ready (printAll delimiters segments ++ rest) :=
        print_all_ready others (apart texts) ready
      exact (reads_print fit segment _ first ends).append
        (reads_print_all fit segments rest others ready)
  termination_by structural segments
end

end Segment

namespace Delimiters

theorem not_braces_in {marker : Marker} (other : marker.chars ≠ standard.closing.chars) :
    ¬ ['}', '}'] <:+: marker.chars := by
  intro inside
  have short : marker.chars.length ≤ 2 := by
    cases second : marker.second <;> simp [Marker.chars, second]
  exact other (inside.eq_of_length_le short).symm

theorem find_header
    (opening : delimiters.opening.chars ≠ standard.closing.chars)
    (closing : delimiters.closing.chars ≠ standard.closing.chars) (rest : List Char) :
    standard.find (standard.tag delimiters.directive ++ rest) =
      .tag [] delimiters.directive rest := by
  have before : ¬ ['}', '}'] <:+: '=' :: delimiters.opening.chars := by
    rw [List.infix_cons_iff]
    rintro (starts | inside)
    · exact absurd (List.cons_prefix_cons.mp starts).1 (by decide)
    · exact not_braces_in opening inside
  refine find_tag_iff.mpr ⟨delimiters.directive ++ (standard.closing.chars ++ rest), ?_, ?_⟩
  · rw [tag, List.append_assoc, List.append_assoc, Text.search_here]
  · have split : delimiters.directive ++ (standard.closing.chars ++ rest) =
        ('=' :: delimiters.opening.chars) ++ ' ' ::
          (delimiters.closing.chars ++ '=' :: (standard.closing.chars ++ rest)) := by
      simp [directive]
    have closes : (standard.closing.chars ++ rest).dropInfix? ['}', '}'] = some ([], rest) :=
      Text.search_here rest
    have found : (delimiters.directive ++ (standard.closing.chars ++ rest)).dropInfix?
        ['}', '}'] = some (delimiters.directive, rest) := by
      rw [split, Text.search_past_doubled before (by decide),
        Text.search_past_doubled (not_braces_in closing) (by decide), closes]
      simp [directive]
    exact found

/-- The markers named by a directive are accepted if they can be told from blanks. -/
theorem read_directive (visible : delimiters.Visible) (line : Nat) :
    Tag.readDirective standard delimiters.directive line = .ok (.directive delimiters) := by
  have closing : Text.words delimiters.closing.chars = [delimiters.closing.chars] := by
    have alone : Text.runs Text.isBlank (delimiters.closing.chars ++ []) =
        delimiters.closing.chars :: Text.runs Text.isBlank [] :=
      Text.runs_of_shown delimiters.closing.chars_ne_nil
        (fun c member => visible c (List.mem_append_right _ member)) [] (by simp)
    simpa [Text.words, Text.runs] using alone
  have words : Text.words (delimiters.opening.chars ++ ' ' :: delimiters.closing.chars) =
      [delimiters.opening.chars, delimiters.closing.chars] := by
    have first : Text.runs Text.isBlank
        (delimiters.opening.chars ++ ' ' :: delimiters.closing.chars) =
          delimiters.opening.chars :: Text.runs Text.isBlank (' ' :: delimiters.closing.chars) :=
      Text.runs_of_shown delimiters.opening.chars_ne_nil
        (fun c member => visible c (List.mem_append_left _ member))
        (' ' :: delimiters.closing.chars) (by simp [Text.isBlank])
    rw [Text.words, first, Text.runs_blank (by decide)]
    exact congrArg _ closing
  have accepted : standard.update
      (String.ofList (delimiters.opening.chars ++ ' ' :: delimiters.closing.chars)) (some line) =
        .ok delimiters := by
    rw [update, String.toList_ofList, (of_directive_iff _ _).mpr words]
  have inner : delimiters.directive.tail.dropLast =
      delimiters.opening.chars ++ ' ' :: delimiters.closing.chars := by
    rw [directive, List.tail_cons, List.dropLast_concat]
  have ends : 2 ≤ delimiters.directive.length ∧ delimiters.directive.getLast? = some '=' := by
    constructor
    · simp [directive]
      omega
    · rw [directive, ← List.cons_append, List.getLast?_concat]
  rw [Tag.readDirective, if_pos ends, inner, accepted]
  rfl

/-- The header makes no segments, and behind it the markers are in force. -/
theorem Fit.read_header (fit : delimiters.Fit) (rest : List Char) :
    ∃ pieces line,
      (∀ config includePartial assembly,
        assemble config includePartial assembly (pieces.map Piece.token) = pure assembly) ∧
      Reading.start standard 1 .empty (delimiters.header ++ rest) =
        (Reading.start delimiters line .empty rest).behind pieces := by
  by_cases usual : delimiters = standard
  · subst usual
    exact ⟨[], 1, fun _ _ _ => rfl, by simp [header, Reading.behind]⟩
  · obtain ⟨opening, closing⟩ := fit.announced.resolve_left usual
    let line := 1 + newlines [] + newlines delimiters.directive
    have told : Tag.readBefore standard delimiters.directive rest line =
        .ok (.directive delimiters, rest) := by
      have sigil : delimiters.directive.head? = some '=' := rfl
      unfold Tag.readBefore
      rw [if_pos sigil, read_directive fit.visible]
      rfl
    have placed : Assembly.empty.growAll ((Piece.ofText []).map Piece.token ++
        [.tag (.directive delimiters) line]) = .ok .empty := rfl
    have kept : passNewline (Tag.dropsNewline .empty (.directive delimiters)) line rest =
        (line, rest) := by
      cases rest <;> rfl
    refine ⟨[.tag standard delimiters.directive (.directive delimiters) line], line,
      fun _ _ _ => rfl, ?_⟩
    rw [header, if_neg usual, Reading.start_of_tag (find_header opening closing rest) rfl told
      placed, kept]
    rfl

end Delimiters

theorem read_source (fit : delimiters.Fit) {segments : List Segment}
    (printable : Segment.PrintableAll delimiters segments) :
    ∃ pieces read, Reading.ofText (Segment.source delimiters segments).toList = ⟨pieces, none⟩ ∧
      Segment.unlinedAll read = Segment.unlinedAll segments ∧
      Assembles pieces read := by
  obtain ⟨head, line, silent, header⟩ :=
    fit.read_header (Segment.printAll delimiters segments ++ [])
  obtain ⟨read, same, pieces, later, assembled, reading⟩ :=
    Segment.reads_print_all fit segments [] printable (.inl rfl) line
  have nothing : delimiters.find [] = .nothing :=
    find_nothing_iff.mpr (Text.search_empty delimiters.opening.chars_ne_nil)
  refine ⟨head ++ pieces, read, ?_, same, fun config escaping includePartial assembly => ?_⟩
  · rw [Segment.source, String.toList_ofList, ← List.append_nil (Segment.printAll _ _),
      Reading.ofText, header, reading, Reading.start_of_nothing nothing]
    simp [Reading.behind, Piece.ofText]
  · rw [List.map_append, assemble_append (silent _ includePartial assembly),
      assembled config escaping]

/-- Compiling a printed source gives back what was printed, for any markers that fit. -/
theorem printed_source_compiles_back (config : Config)
    (escaping : config.options.escapeHtml = .bool true) (chain : List String)
    (delimiters : Delimiters) (fit : delimiters.Fit) (segments : List Segment)
    (printable : Segment.PrintableAll delimiters segments) :
    ∃ read,
      (config.runCompile chain (.text (Segment.source delimiters segments))).1 =
        .ok ⟨read, config⟩ ∧
      Segment.unlinedAll read = Segment.unlinedAll segments := by
  obtain ⟨pieces, read, whole, same, assembled⟩ := read_source fit printable
  refine ⟨read, ?_, same⟩
  have compiled (includePartial : String → Compile (List Segment)) :
      (Source.text (Segment.source delimiters segments)).scan.compile config
        includePartial = (do record (.compiled read.length); return read) := by
    have finished : (Assembly.empty.addAll read).finish = .ok read := by
      simp [Assembly.addAll, Assembly.empty, Assembly.finish]
    rw [compile_settled, scan_settled, whole]
    simp only [Reading.scan, Scan.compile, assembled config escaping, pure_bind, finished]
    rfl
  rw [Config.runCompile, Config.compileInside, compile_levels_succ, compiled]
  rfl

theorem bracketed_source_compiles_back :
    ∃ read,
      (Config.standard.runCompile [] (.text "\x7b\x7b=[[ ]=\x7d\x7da [[^s]\n[[n]\n[[/s]\n[[&]")).1 =
        .ok ⟨read, .standard⟩ ∧
      Segment.unlinedAll read =
        [.text "a ", .block true "s" 0 [.interpolation "n" (.bool true) 0, .text "\n"],
          .interpolation "" (.bool false) 0] := by
  let brackets : Delimiters := ⟨⟨'[', some '['⟩, ⟨']', none⟩⟩
  let segments : List Segment :=
    [.text "a ", .block true "s" 0 [.interpolation "n" (.bool true) 0, .text "\n"],
      .interpolation "" (.bool false) 0]
  have fit : brackets.Fit := ⟨by decide, by decide, .inr (by decide)⟩
  have inner : Segment.PrintableAll brackets
      [.interpolation "n" (.bool true) 0, .text "\n"] :=
    ⟨⟨by decide, by decide, .inr ⟨rfl, 'n', [], by decide, by decide⟩⟩, nofun,
      ⟨by decide, by decide⟩, nofun, trivial⟩
  have printable : Segment.PrintableAll brackets segments :=
    ⟨⟨by decide, by decide⟩, by simp [Segment.isText], ⟨by decide, by decide, inner⟩, nofun,
      ⟨by decide, by decide, .inl rfl⟩, nofun, trivial⟩
  exact printed_source_compiles_back Config.standard rfl [] brackets fit segments printable

end Mustache
