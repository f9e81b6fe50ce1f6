import Mustache.Proofs.Token.Stream

/-!
Where the tags of a source stand. A tag is found behind the characters that the tokens before it
are made of, as the first thing there. Its line is counted up to its closing marker, and every
newline in front of that counts once: those of texts, of tags, and those that are dropped.
-/

namespace Mustache

set_option autoImplicit false

def Token.delimitersAfter (delimiters : Delimiters) : Token → Delimiters
  | .text _ => delimiters
  | .tag told _ => told.delimitersAfter delimiters

/-- The markers that hold behind the first tokens of a source. -/
def Token.markersBehind (tokens : List Token) : Delimiters :=
  tokens.foldl delimitersAfter .standard

theorem markers_behind_text (tokens : List Token) (content : List Char) :
    Token.markersBehind (tokens ++ Token.ofText content) = Token.markersBehind tokens := by
  unfold Token.ofText
  split <;> simp [Token.markersBehind, Token.delimitersAfter]

/-- Behind the tokens of `earlier` stands a tag with this content. In front of its closing marker
is `front`, and behind that marker is `after`. -/
inductive TagAt (text : List Char) (earlier : List Token) :
    (front content after : List Char) → Prop where
  | here {before rest content after : List Char}
      (reads : (Source.text (String.ofList before)).scan = ⟨earlier, none⟩)
      (whole : text = before ++ rest)
      (found : (Token.markersBehind earlier).find rest = .tag [] content after) :
      TagAt text earlier (before ++ (Token.markersBehind earlier).opening.chars ++ content) content
        after

theorem TagAt.splits {text front content after : List Char} {earlier : List Token}
    (standing : TagAt text earlier front content after) :
    text = front ++ (Token.markersBehind earlier).closing.chars ++ after := by
  cases standing with
  | here reads whole found =>
      rw [whole, find_tag_splits found]
      simp

def Token.Placed (text : List Char) (earlier : List Token) (tag : Tag) (line : Nat) : Prop :=
  ∃ front content after rest, TagAt text earlier front content after ∧
    Tag.readBefore (markersBehind earlier) content after line = .ok (tag, rest) ∧
    line = 1 + newlines front

/-- What keeps a text from being read to its end: the first tag that is refused, or one that has no
end itself. -/
inductive Unreadable (text : List Char) (tokens : List Token) : ParseError → Prop where
  | refused {front content after : List Char} {error : ParseError}
      (standing : TagAt text tokens front content after)
      (told : Tag.readBefore (Token.markersBehind tokens) content after (1 + newlines front) =
        .error error) :
      Unreadable text tokens error
  | ended {content : String} :
      Unreadable text tokens ⟨.endedInTag content, some (1 + newlines text : Nat)⟩

namespace Lexer

structure Through (lexer : Lexer) (done source : List Char) : Prop where
  line : lexer.line = 1 + newlines done
  markers : Token.markersBehind lexer.tokens.reverse = lexer.delimiters
  reads : ∀ front, front <+: source → start.scan (done ++ front) = lexer.scan front

theorem start_through (source : List Char) : start.Through [] source where
  line := rfl
  markers := rfl
  reads _ _ := rfl

namespace Through

variable {lexer : Lexer} {done source before content after rest : List Char}

theorem tag_at (through : lexer.Through done source) (outside : lexer.Outside)
    (found : lexer.delimiters.find source = .tag before content after) :
    ∃ front, TagAt (done ++ source) (lexer.tokens.reverse ++ Token.ofText before) front content
        after ∧
      lexer.line + newlines before + newlines content = 1 + newlines front := by
  have splits := find_tag_splits found
  have markers : Token.markersBehind (lexer.tokens.reverse ++ Token.ofText before) =
      lexer.delimiters := by
    rw [markers_behind_text, through.markers]
  have reads : (Source.text (String.ofList (done ++ before))).scan =
      ⟨lexer.tokens.reverse ++ Token.ofText before, none⟩ := by
    have front : before <+: source := ⟨_, by rw [splits, List.append_assoc]⟩
    rw [scan_text, through.reads before front, outside.scan_nothing (find_tag_front found)]
  have whole : done ++ source = done ++ before ++ (lexer.delimiters.opening.chars ++
      (content ++ lexer.delimiters.closing.chars ++ after)) := by
    rw [splits]
    simp
  have standing := TagAt.here reads whole (by rw [markers]; exact find_tag_here found)
  refine ⟨_, standing, ?_⟩
  rw [markers, through.line]
  simp only [newlines, List.count_append, outside.visible.count_opening]
  omega

/-- Behind a tag the lexer has read what was there so far, the tag, and the newline that is
dropped. -/
theorem behind (through : lexer.Through done source) (outside : lexer.Outside) {tag : Tag}
    (found : lexer.delimiters.find source = .tag before content after)
    (told : Tag.readBefore lexer.delimiters content after
      (lexer.line + newlines before + newlines content) = .ok (tag, rest)) :
    let next := lexer.behind before content tag
    let left := passNewline next.swallow next.line rest
    ∃ further, done ++ source = further ++ left.2 ∧ (next.wake left.1).Through further left.2 := by
  intro next left
  obtain ⟨tail, whole, visible, ahead⟩ := outside.scan_ahead found told
  obtain ⟨dropped, cut, counted, again⟩ := pass_newline_front next.swallow next.line rest
  let tagged := before ++ lexer.delimiters.opening.chars ++
    (content ++ lexer.delimiters.closing.chars ++ tail)
  have splits : source = tagged ++ dropped ++ left.2 := by
    rw [find_tag_splits found, whole, cut]
    simp [tagged, left]
  refine ⟨done ++ tagged ++ dropped, by simp [splits], ?_, ?_, ?_⟩
  · have line : next.line = lexer.line + newlines before + newlines content :=
      behind_line outside.fresh before content tag
    have closing : newlines lexer.delimiters.closing.chars = 0 :=
      List.count_eq_zero.mpr outside.visible.closing_visible
    change left.1 = _
    rw [counted, line, through.line]
    simp only [newlines, tagged, List.count_append, outside.visible.count_opening] at *
    omega
  · change Token.markersBehind next.tokens.reverse = next.delimiters
    rw [behind_tokens outside.fresh, behind_delimiters outside.fresh, ← List.append_assoc]
    have front : Token.markersBehind (lexer.tokens.reverse ++ Token.ofText before) =
        lexer.delimiters := by
      rw [markers_behind_text, through.markers]
    unfold Token.markersBehind at front ⊢
    rw [List.foldl_append, front]
    cases tag <;> rfl
  · intro front inside
    have before : tagged ++ dropped ++ front <+: source := by
      rw [splits]
      exact List.prefix_append_right_inj _ |>.mpr inside
    calc
      start.scan (done ++ tagged ++ dropped ++ front)
        = lexer.scan (tagged ++ dropped ++ front) := by
          rw [← through.reads _ before]
          simp
      _ = next.scan (dropped ++ front) := by
          rw [← ahead]
          simp [tagged]
      _ = (next.wake left.1).scan front := by
          rw [scan_wake next (by cases tag <;> rfl), again front inside]

end Through

theorem no_tag_in_text {content : List Char} {earlier later : List Token} {tag : Tag} {line : Nat} :
    Token.ofText content ≠ earlier ++ .tag tag line :: later := by
  intro split
  have inside : .tag tag line ∈ Token.ofText content := by simp [split]
  unfold Token.ofText at inside
  split at inside <;> simp at inside

/-- All tags that the lexer still finds are placed, and where it stops a tag is to blame. -/
theorem Outside.placed {lexer : Lexer} (outside : lexer.Outside) (source : List Char) :
    ∀ done, lexer.Through done source →
      ∃ tail failure, lexer.scan source = ⟨lexer.tokens.reverse ++ tail, failure⟩ ∧
        (∀ earlier tag line later, tail = earlier ++ .tag tag line :: later →
          Token.Placed (done ++ source) (lexer.tokens.reverse ++ earlier) tag line) ∧
        ∀ fault, failure = some fault → ∃ error, fault = .parse error ∧
          Unreadable (done ++ source) (lexer.tokens.reverse ++ tail) error := by
  induction lexer, source, outside using Outside.scan_induction with
  | nothing lexer source outside found =>
      intro done through
      exact ⟨_, _, outside.scan_nothing found, fun _ _ _ _ split => (no_tag_in_text split).elim,
        nofun⟩
  | unclosed lexer source before rest outside found =>
      intro done through
      have scanned := outside.scan_unclosed found
      by_cases broken : lexer.delimiters.closing.second.isSome ∧
          rest.getLast? = some lexer.delimiters.closing.first
      · rw [if_pos broken] at scanned
        refine ⟨_, _, scanned, ?_, nofun⟩
        intro earlier tag line later split
        rcases Text.split_at split with ⟨between, _, inside⟩ | ⟨between, inside, _⟩
        · exact (no_tag_in_text inside).elim
        · exact (no_tag_in_text inside).elim
      · rw [if_neg broken] at scanned
        refine ⟨_, _, scanned, fun _ _ _ _ split => (no_tag_in_text split).elim, ?_⟩
        rintro fault ⟨⟩
        have counted : lexer.line + newlines source = 1 + newlines (done ++ source) := by
          rw [through.line, newlines, newlines, newlines, List.count_append, Nat.add_assoc]
        rw [counted]
        exact ⟨_, rfl, .ended⟩
  | refused lexer source before content after error outside found told =>
      intro done through
      have scanned := outside.scan_tag found
      rw [told] at scanned
      refine ⟨_, _, scanned, fun _ _ _ _ split => (no_tag_in_text split).elim, ?_⟩
      rintro fault ⟨⟩
      obtain ⟨front, standing, counted⟩ := through.tag_at outside found
      refine ⟨error, rfl, .refused standing ?_⟩
      rwa [markers_behind_text, through.markers, ← counted]
  | passed lexer source before content after tag rest outside found told next left behind
      induction =>
      intro done through
      obtain ⟨further, whole, onward⟩ := through.behind outside found told
      obtain ⟨tail, failure, later, placed, stops⟩ := induction further onward
      let closed := lexer.line + newlines before + newlines content
      have tokens : next.tokens.reverse =
          lexer.tokens.reverse ++ (Token.ofText before ++ [.tag tag closed]) :=
        behind_tokens outside.fresh before content tag
      change ∀ earlier tag line later, tail = earlier ++ .tag tag line :: later →
        Token.Placed (further ++ left.2) (next.tokens.reverse ++ earlier) tag line at placed
      change ∀ fault, failure = some fault → ∃ error, fault = .parse error ∧
        Unreadable (further ++ left.2) (next.tokens.reverse ++ tail) error at stops
      rw [tokens, ← whole] at placed stops
      refine ⟨_, _, outside.scan_passed found told later, ?_, ?_⟩
      · intro earlier other line last split
        -- A tag of the scan is behind this one or is this one: in the text before there is none.
        rw [List.append_cons] at split
        rcases Text.split_at split with ⟨between, rfl, behind⟩ | ⟨between, inside, rfl⟩
        · rw [← List.append_assoc]
          exact placed between other line last behind
        · rcases Text.split_at inside with ⟨gap, rfl, single⟩ | ⟨gap, within, rfl⟩
          · obtain ⟨rfl, rfl, rfl, rfl⟩ : gap = [] ∧ other = tag ∧ line = closed ∧ between = [] := by
              cases gap with
              | nil => simpa [eq_comm, and_assoc] using single
              | cons head gap => simp at single
            obtain ⟨front, standing, counted⟩ := through.tag_at outside found
            refine ⟨front, content, after, rest, ?_, ?_, counted⟩
            · rwa [List.append_nil]
            · rwa [List.append_nil, markers_behind_text, through.markers]
          · exact (no_tag_in_text within).elim
      · simpa using stops

end Lexer

theorem scan_placed (source : Source) {earlier later : List Token} {tag : Tag} {line : Nat}
    (split : source.scan.tokens = earlier ++ .tag tag line :: later) :
    Token.Placed source.characters earlier tag line := by
  obtain ⟨tail, failure, scanned, placed, _⟩ :=
    Lexer.start_outside.placed source.characters [] (Lexer.start_through _)
  have whole : (Lexer.start.scan source.characters).tokens = tail := by
    rw [scanned]
    rfl
  rcases scan_cases source with same | ⟨fault, more, _, _, further⟩
  · exact placed earlier tag line later (by rw [← whole, ← same, split])
  · exact placed earlier tag line (later ++ more) (by rw [← whole, further, split]; simp)

/-- Nothing but a tag or the stream itself keeps a source from being read to its end. -/
theorem scan_unreadable {source : Source} {fault : Fault}
    (failed : source.scan.failure = some fault) :
    source.readFailure = some fault ∨
      ∃ error, fault = .parse error ∧ Unreadable source.characters source.scan.tokens error := by
  obtain ⟨tail, failure, scanned, _, stops⟩ :=
    Lexer.start_outside.placed source.characters [] (Lexer.start_through _)
  rcases scan_cases source with same | ⟨read, more, broken, ends, _⟩
  · rw [same, scanned] at failed ⊢
    exact .inr (stops fault failed)
  · rw [ends] at failed
    cases failed
    exact .inl broken

end Mustache
