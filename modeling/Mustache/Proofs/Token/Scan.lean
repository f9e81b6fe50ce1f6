import Mustache.Proofs.Token.Hunt
import Mustache.Proofs.Token.Search

/-!
What the lexer makes of a source from a place outside of all tags: the text up to the first tag,
then that tag, then the rest from there. The first tag is the one that a search finds.
-/

namespace Mustache

set_option autoImplicit false

def Token.ofText (content : List Char) : List Token :=
  if content = [] then [] else [.text (String.ofList content)]

namespace Lexer

def scan (lexer : Lexer) (source : List Char) : Scan :=
  match finish <$> lexer.feed source with
  | .ok scan | .error scan => scan

def scanAfter (lexer : Lexer) (result : Except ParseError Lexer) (rest : List Char) : Scan :=
  match result with
  | .ok next => next.scan rest
  | .error error => ⟨lexer.tokens.reverse, some (.parse error)⟩

theorem scan_cons (lexer : Lexer) (c : Char) (rest : List Char) :
    lexer.scan (c :: rest) = lexer.scanAfter (lexer.step c) rest := by
  rw [scan, feed_cons]
  cases lexer.step c <;> rfl

theorem flush_tokens (lexer : Lexer) :
    lexer.flush.tokens.reverse = lexer.tokens.reverse ++ Token.ofText lexer.content := by
  rcases lexer with ⟨_, _, pending, _, _, _, _⟩
  cases pending with
  | nil => simp [flush, content, Token.ofText]
  | cons c rest => simp [flush, content, Token.ofText]

end Lexer

namespace Hunt

variable {delimiters : Delimiters} (hunt : Hunt delimiters)

theorem scan_without {lexer : Lexer} {text : List Char} (visible : hunt.Visible)
    (same : lexer.delimiters = delimiters) (awake : lexer.swallow = false)
    (mode : lexer.mode = hunt.seek) (absent : text.dropInfix? hunt.marker.chars = none) :
    lexer.scan text = (hunt.atEnd lexer text).finish := by
  rw [Lexer.scan, (hunt.feed_both visible text lexer same awake mode).1, outcome, absent]
  rfl

theorem scan_found {lexer : Lexer} {text before rest : List Char} (visible : hunt.Visible)
    (same : lexer.delimiters = delimiters) (awake : lexer.swallow = false)
    (mode : lexer.mode = hunt.seek)
    (found : text.dropInfix? hunt.marker.chars = some (before, rest)) :
    lexer.scan text = lexer.scanAfter (hunt.found (lexer.pass before)) rest := by
  rw [Lexer.scan, (hunt.feed_both visible text lexer same awake mode).1, outcome, found]
  simp only [Lexer.feedAfter, Lexer.scanAfter]
  cases hunt.found (lexer.pass before) <;> rfl

theorem at_end_pass {lexer : Lexer} {text : List Char} (plain : hunt.marker.first ≠ '\n')
    (broken : hunt.marker.second.isSome ∧ text.getLast? = some hunt.marker.first) :
    (hunt.atEnd lexer text).push hunt.marker.first = (lexer.pass text).inMode hunt.hold := by
  have whole := List.dropLast_append_getLast? hunt.marker.first broken.2
  rw [atEnd, if_pos broken, Lexer.push_visible plain]
  conv_rhs => rw [← whole, ← Lexer.pass_pass]
  rfl

end Hunt

namespace Delimiters.Visible

variable {delimiters : Delimiters} (visible : delimiters.Visible)
include visible

theorem opening_visible : (Hunt.forOpening delimiters).Visible := by
  intro newline
  exact visible.not_newline (List.mem_append_left _ newline) rfl

theorem closing_visible : (Hunt.forClosing delimiters).Visible := by
  intro newline
  exact visible.not_newline (List.mem_append_right _ newline) rfl

theorem count_opening : delimiters.opening.chars.count '\n' = 0 :=
  List.count_eq_zero.mpr visible.opening_visible

end Delimiters.Visible

theorem Hunt.Visible.first_plain {delimiters : Delimiters} {hunt : Hunt delimiters}
    (visible : hunt.Visible) : hunt.marker.first ≠ '\n' := by
  intro newline
  exact visible (by simp [Marker.chars, newline])

namespace Lexer

variable {lexer : Lexer}

theorem finish_outside (visible : lexer.delimiters.Visible) (mode : lexer.mode = .text)
    (text : List Char) :
    ((Hunt.forOpening lexer.delimiters).atEnd lexer text).finish =
      ⟨lexer.tokens.reverse ++ Token.ofText (lexer.pass text).content, none⟩ := by
  let hunt := Hunt.forOpening lexer.delimiters
  by_cases broken : hunt.marker.second.isSome ∧ text.getLast? = some hunt.marker.first
  · have finishes : (hunt.atEnd lexer text).finish =
        ⟨((hunt.atEnd lexer text).push hunt.marker.first).flush.tokens.reverse, none⟩ := by
      rw [Hunt.atEnd, if_pos broken]
      rfl
    rw [finishes, hunt.at_end_pass visible.opening_visible.first_plain broken, flush_tokens]
    rfl
  · have finishes : (hunt.atEnd lexer text).finish =
        ⟨(lexer.pass text).flush.tokens.reverse, none⟩ := by
      rw [Hunt.atEnd, if_neg broken, finish]
      simp only [pass, mode]
    rw [finishes, flush_tokens]
    rfl

/-- Inside of a tag the end of a source is refused, unless it lies inside of the closing marker. -/
theorem finish_inside (visible : lexer.delimiters.Visible) (mode : lexer.mode = .tag)
    (text : List Char) :
    ((Hunt.forClosing lexer.delimiters).atEnd lexer text).finish =
      if lexer.delimiters.closing.second.isSome ∧
          text.getLast? = some lexer.delimiters.closing.first then
        ⟨lexer.tokens.reverse ++ Token.ofText (lexer.pass text).content, none⟩
      else
        ⟨lexer.tokens.reverse, some (.parse ⟨.endedInTag (String.ofList (lexer.pass text).content),
          some (lexer.pass text).line⟩)⟩ := by
  let hunt := Hunt.forClosing lexer.delimiters
  by_cases broken : hunt.marker.second.isSome ∧ text.getLast? = some hunt.marker.first
  · have finishes : (hunt.atEnd lexer text).finish =
        ⟨((hunt.atEnd lexer text).push hunt.marker.first).flush.tokens.reverse, none⟩ := by
      rw [Hunt.atEnd, if_pos broken]
      rfl
    rw [finishes, hunt.at_end_pass visible.closing_visible.first_plain broken, flush_tokens]
    exact (if_pos broken).symm
  · have refused : (hunt.atEnd lexer text).finish =
        ⟨lexer.tokens.reverse, some (.parse
          ⟨.endedInTag (String.ofList (lexer.pass text).content),
            some (lexer.pass text).line⟩)⟩ := by
      rw [Hunt.atEnd, if_neg broken, finish]
      simp only [pass, mode]
    exact refused.trans (if_neg broken).symm

def enter (lexer : Lexer) (before : List Char) : Lexer := (lexer.pass before).enterTag

theorem enter_eq (fresh : lexer.pending = []) (before : List Char) :
    lexer.enter before =
      { lexer with
        mode := .tag
        line := lexer.line + newlines before
        atBlock := lexer.atBlock && before.isEmpty
        tokens := Token.ofText before ++ lexer.tokens } := by
  rcases lexer with ⟨_, _, _, _, _, _, _⟩
  subst fresh
  cases before with
  | nil => simp [enter, enterTag, flush, pass, Token.ofText, newlines]
  | cons c rest =>
      simp [enter, enterTag, flush, pass, Token.ofText, content, newlines]

theorem enter_tokens (fresh : lexer.pending = []) (before : List Char) :
    (lexer.enter before).tokens.reverse = lexer.tokens.reverse ++ Token.ofText before := by
  rw [enter_eq fresh]
  unfold Token.ofText
  split <;> simp

theorem pass_content (fresh : lexer.pending = []) (text : List Char) :
    (lexer.pass text).content = text := by
  simp [pass, content, fresh]

structure Outside (lexer : Lexer) : Prop where
  mode : lexer.mode = .text
  fresh : lexer.pending = []
  awake : lexer.swallow = false
  visible : lexer.delimiters.Visible

structure Inside (lexer : Lexer) : Prop where
  mode : lexer.mode = .tag
  fresh : lexer.pending = []
  awake : lexer.swallow = false
  visible : lexer.delimiters.Visible

theorem start_outside : start.Outside := ⟨rfl, rfl, rfl, Delimiters.standard_visible⟩

section Search

variable {source before content after rest : List Char}

theorem Outside.enter (outside : lexer.Outside) (before : List Char) :
    (lexer.enter before).Inside := by
  rw [enter_eq outside.fresh]
  exact ⟨rfl, outside.fresh, outside.awake, outside.visible⟩

theorem Outside.scan_without (outside : lexer.Outside)
    (absent : source.dropInfix? lexer.delimiters.opening.chars = none) :
    lexer.scan source = ⟨lexer.tokens.reverse ++ Token.ofText source, none⟩ := by
  rw [(Hunt.forOpening _).scan_without outside.visible.opening_visible rfl outside.awake
    outside.mode absent, finish_outside outside.visible outside.mode, pass_content outside.fresh]

theorem Outside.scan_opened (outside : lexer.Outside)
    (opened : source.dropInfix? lexer.delimiters.opening.chars = some (before, rest)) :
    lexer.scan source = (lexer.enter before).scan rest :=
  (Hunt.forOpening _).scan_found outside.visible.opening_visible rfl outside.awake outside.mode
    opened

theorem Inside.scan_without (inside : lexer.Inside)
    (absent : rest.dropInfix? lexer.delimiters.closing.chars = none) :
    lexer.scan rest =
      if lexer.delimiters.closing.second.isSome ∧
          rest.getLast? = some lexer.delimiters.closing.first then
        ⟨lexer.tokens.reverse ++ Token.ofText rest, none⟩
      else
        ⟨lexer.tokens.reverse, some (.parse
          ⟨.endedInTag (String.ofList rest), some (lexer.line + newlines rest : Nat)⟩)⟩ := by
  rw [(Hunt.forClosing _).scan_without inside.visible.closing_visible rfl inside.awake
    inside.mode absent, finish_inside inside.visible inside.mode, pass_content inside.fresh]
  rfl

theorem Inside.scan_closed (inside : lexer.Inside)
    (closed : rest.dropInfix? lexer.delimiters.closing.chars = some (content, after)) :
    lexer.scan rest = (lexer.pass content).scanAfter (lexer.pass content).endTag after :=
  (Hunt.forClosing _).scan_found inside.visible.closing_visible rfl inside.awake inside.mode
    closed

end Search

def close (lexer : Lexer) (tag : Tag) : Lexer :=
  match tag with
  | .directive delimiters =>
      { lexer.emit (.directive delimiters) with delimiters := delimiters, swallow := false }
  | tag => lexer.emit tag

theorem finish_tag_eq (lexer : Lexer) (content : List Char) :
    lexer.finishTag content =
      (Tag.readPlain lexer.delimiters content lexer.line).map lexer.close := by
  unfold finishTag Tag.readPlain
  by_cases opener : lexer.delimiters.opening.chars <:+: content
  · rw [if_pos opener, if_pos ((Text.occurs_in_iff _ _).mpr opener)]
    rfl
  · rw [if_neg opener, if_neg (mt (Text.occurs_in_iff _ _).mp opener)]
    cases told : Tag.read content lexer.line with
    | error error => rfl
    | ok tag =>
        cases tag with
        | directive delimiters => exact (read_not_directive told).elim
        | _ => rfl

theorem apply_directive_eq (lexer : Lexer) (content : List Char) :
    lexer.applyDirective content =
      (Tag.readDirective lexer.delimiters content lexer.line).map lexer.close := by
  unfold applyDirective Tag.readDirective
  by_cases framed : 2 ≤ content.length ∧ content.getLast? = some '='
  · rw [if_pos framed, if_neg (by simp [framed, Nat.not_lt.mpr framed.1]), List.drop_one]
    dsimp only
    cases lexer.delimiters.update (String.ofList content.tail.dropLast) (some lexer.line) <;> rfl
  · rw [if_neg framed, if_pos (by
      rw [not_and_or, Nat.not_le] at framed
      simpa using framed)]
    rfl

section Step

variable {lexer next : Lexer}

theorem closes_of_map {told : Except ParseError Tag}
    (closes : told.map lexer.close = .ok next) : ∃ tag, next = lexer.close tag := by
  cases told with
  | error error => cases closes
  | ok tag => exact ⟨tag, (Except.ok.inj closes).symm⟩

theorem end_tag_cases (ended : lexer.endTag = .ok next) :
    (∃ content, next = { lexer with mode := .thirdBrace content, pending := [] }) ∨
      ∃ tag, next = lexer.close tag := by
  unfold endTag at ended
  dsimp only at ended
  split at ended
  · exact .inr (closes_of_map ((apply_directive_eq _ _).symm.trans ended))
  · split at ended
    · cases ended
      exact .inl ⟨_, rfl⟩
    · exact .inr (closes_of_map ((finish_tag_eq _ _).symm.trans ended))

theorem accept_cases {c : Char} (accepted : lexer.accept c = .ok next) :
    (∃ mode pending, next = { lexer with mode := mode, pending := pending }) ∨
      next = lexer.enterTag ∨ ∃ tag, next = lexer.close tag := by
  have ended (ended : lexer.endTag = .ok next) :
      (∃ mode pending, next = { lexer with mode := mode, pending := pending }) ∨
        next = lexer.enterTag ∨ ∃ tag, next = lexer.close tag := by
    rcases end_tag_cases ended with ⟨content, rfl⟩ | closed
    · exact .inl ⟨_, _, rfl⟩
    · exact .inr (.inr closed)
  unfold accept at accepted
  dsimp only at accepted
  split at accepted
  all_goals split_ifs at accepted
  all_goals first
    | exact ended accepted
    | exact .inr (.inl (Except.ok.inj accepted).symm)
    | exact .inl ⟨_, _, (Except.ok.inj accepted).symm⟩

/-- All that one character may do: it is counted, and with that it is held or dropped, or it ends
the text before a tag, or it ends a tag. -/
theorem step_cases {c : Char} (stepped : lexer.step c = .ok next) :
    let counted := { lexer.count c with swallow := false }
    (∃ mode pending, next = { counted with mode := mode, pending := pending }) ∨
      next = counted.enterTag ∨ ∃ tag, next = counted.close tag := by
  intro counted
  cases mode : lexer.mode with
  | thirdBrace content =>
      unfold step at stepped
      rw [mode] at stepped
      dsimp only at stepped
      split at stepped
      · next brace =>
          obtain ⟨tag, rfl⟩ := closes_of_map ((finish_tag_eq _ _).symm.trans stepped)
          have same : lexer.close tag = counted.close tag := by
            have visible : c ≠ '\n' := by simp [brace]
            dsimp only [counted]
            rw [count_visible visible]
            cases tag <;> rfl
          exact .inr (.inr ⟨tag, same⟩)
      · cases stepped
  | _ =>
      rw [step_counted (by simp [mode])] at stepped
      dsimp only at stepped
      split at stepped
      · exact .inl ⟨_, _, (Except.ok.inj stepped).symm⟩
      · exact accept_cases stepped

end Step

theorem scan_after_map (lexer : Lexer) (told : Except ParseError Tag) (rest : List Char) :
    lexer.scanAfter (told.map lexer.close) rest =
      match told with
      | .error error => ⟨lexer.tokens.reverse, some (.parse error)⟩
      | .ok tag => (lexer.close tag).scan rest := by
  cases told <;> rfl

/-- Of three braces the last one is still to come. -/
theorem scan_third_brace (lexer : Lexer) (after : List Char) :
    { lexer with mode := .thirdBrace lexer.content, pending := [] }.scan after =
      match (match after with
        | '}' :: after =>
            (Tag.readPlain lexer.delimiters ('&' :: lexer.content.tail) lexer.line).map (·, after)
        | _ => .error ⟨.badTripleTag (String.ofList lexer.content), some lexer.line⟩) with
      | .error error => ⟨lexer.tokens.reverse, some (.parse error)⟩
      | .ok (tag, rest) => (lexer.close tag).scan rest := by
  cases after with
  | nil => rfl
  | cons c rest =>
      rw [scan_cons]
      by_cases brace : c = '}'
      · subst brace
        have step : { lexer with mode := .thirdBrace lexer.content, pending := [] }.step '}' =
            (Tag.readPlain lexer.delimiters ('&' :: lexer.content.tail) lexer.line).map
              { lexer with mode := .thirdBrace lexer.content, pending := [] }.close := by
          rw [step, ← List.drop_one]
          exact finish_tag_eq _ _
        rw [step, scan_after_map]
        cases told : Tag.readPlain lexer.delimiters ('&' :: lexer.content.tail) lexer.line with
        | error error => rfl
        | ok tag => cases tag <;> rfl
      · have step : { lexer with mode := .thirdBrace lexer.content, pending := [] }.step c =
            .error ⟨.badTripleTag (String.ofList lexer.content), some lexer.line⟩ := by
          rw [step]
          exact if_neg brace
        rw [step]
        simp [scanAfter, brace]

theorem scan_end_tag (lexer : Lexer) (after : List Char) :
    lexer.scanAfter lexer.endTag after =
      match Tag.readBefore lexer.delimiters lexer.content after lexer.line with
      | .error error => ⟨lexer.tokens.reverse, some (.parse error)⟩
      | .ok (tag, rest) => (lexer.close tag).scan rest := by
  unfold endTag Tag.readBefore
  by_cases directive : lexer.content.head? = some '='
  · simp only [if_pos directive, apply_directive_eq, scan_after_map]
    cases Tag.readDirective lexer.delimiters lexer.content lexer.line <;> rfl
  · simp only [if_neg directive]
    by_cases triple : Tag.isTriple lexer.delimiters lexer.content
    · have braced : (lexer.delimiters.isStandard && lexer.content.head? == some '{') = true := by
        simpa [Delimiters.isStandard, Tag.isTriple] using triple
      rw [if_pos triple, if_pos braced]
      exact scan_third_brace lexer after
    · have plain : ¬ (lexer.delimiters.isStandard && lexer.content.head? == some '{') = true := by
        simpa [Delimiters.isStandard, Tag.isTriple] using triple
      rw [if_neg triple, if_neg plain, finish_tag_eq, scan_after_map]
      cases Tag.readPlain lexer.delimiters lexer.content lexer.line <;> rfl

def wake (lexer : Lexer) (line : Nat) : Lexer := { lexer with line := line, swallow := false }

theorem scan_wake (lexer : Lexer) (mode : lexer.mode = .text) (source : List Char) :
    lexer.scan source =
      (lexer.wake (passNewline lexer.swallow lexer.line source).1).scan
        (passNewline lexer.swallow lexer.line source).2 := by
  cases source with
  | nil =>
      rcases lexer with ⟨_, _, pending, _, _, _, _⟩
      cases mode
      cases pending <;> rfl
  | cons c rest =>
      by_cases dropped : (lexer.swallow && c == '\n') = true
      · have passed : passNewline lexer.swallow lexer.line (c :: rest) = (lexer.line + 1, rest) :=
          if_pos dropped
        have step : lexer.step c = .ok (lexer.wake (lexer.line + 1)) := by
          simp only [Bool.and_eq_true, beq_iff_eq] at dropped
          unfold step
          rw [mode]
          simp only [dropped.2, dropped.1, decide_true, Bool.and_self, if_true, wake, mode]
        rw [scan_cons, step, passed]
        rfl
      · have passed : passNewline lexer.swallow lexer.line (c :: rest) = (lexer.line, c :: rest) :=
          if_neg dropped
        have step : lexer.step c = (lexer.wake lexer.line).step c := by
          unfold step wake
          rw [mode]
          simp only [Bool.and_false]
          rw [if_neg (by simpa [and_comm] using dropped)]
          rfl
        rw [passed, scan_cons, scan_cons, step]
        rfl

def behind (lexer : Lexer) (before content : List Char) (tag : Tag) : Lexer :=
  ((lexer.enter before).pass content).close tag

section Behind

variable (fresh : lexer.pending = []) (before content : List Char) (tag : Tag)
include fresh

theorem behind_tokens :
    (lexer.behind before content tag).tokens.reverse =
      lexer.tokens.reverse ++
        (Token.ofText before ++ [.tag tag (lexer.line + newlines before + newlines content)]) := by
  have tokens : (lexer.behind before content tag).tokens =
      .tag tag ((lexer.enter before).line + newlines content) :: (lexer.enter before).tokens := by
    cases tag <;> rfl
  have line : (lexer.enter before).line = lexer.line + newlines before := by rw [enter_eq fresh]
  rw [tokens, List.reverse_cons, enter_tokens fresh, line, List.append_assoc]

theorem behind_line :
    (lexer.behind before content tag).line = lexer.line + newlines before + newlines content := by
  have line : (lexer.behind before content tag).line =
      (lexer.enter before).line + newlines content := by
    cases tag <;> rfl
  rw [line, enter_eq fresh]

theorem behind_delimiters :
    (lexer.behind before content tag).delimiters = tag.delimitersAfter lexer.delimiters := by
  have delimiters : (lexer.behind before content tag).delimiters =
      tag.delimitersAfter (lexer.enter before).delimiters := by
    cases tag <;> rfl
  rw [delimiters, enter_eq fresh]

theorem behind_at_block :
    (lexer.behind before content tag).atBlock =
      blockAfter (lexer.atBlock && before.isEmpty) tag := by
  have atBlock : (lexer.behind before content tag).atBlock =
      blockAfter (lexer.enter before).atBlock tag := by
    cases tag <;> rfl
  rw [atBlock, enter_eq fresh]

end Behind

theorem Outside.behind_awake (outside : lexer.Outside) (before content : List Char) (tag : Tag)
    (line : Nat) (visible : (tag.delimitersAfter lexer.delimiters).Visible) :
    ((lexer.behind before content tag).wake line).Outside where
  mode := by cases tag <;> rfl
  fresh := by cases tag <;> rfl
  awake := rfl
  visible := by
    change (lexer.behind before content tag).delimiters.Visible
    rwa [behind_delimiters outside.fresh]

section Reading

variable {source before content after rest : List Char}

theorem Outside.scan_nothing (outside : lexer.Outside)
    (found : lexer.delimiters.find source = .nothing) :
    lexer.scan source = ⟨lexer.tokens.reverse ++ Token.ofText source, none⟩ :=
  outside.scan_without (find_nothing_iff.mp found)

theorem Outside.scan_unclosed (outside : lexer.Outside)
    (found : lexer.delimiters.find source = .unclosed before rest) :
    lexer.scan source =
      if lexer.delimiters.closing.second.isSome ∧
          rest.getLast? = some lexer.delimiters.closing.first then
        ⟨lexer.tokens.reverse ++ (Token.ofText before ++ Token.ofText rest), none⟩
      else
        ⟨lexer.tokens.reverse ++ Token.ofText before, some (.parse
          ⟨.endedInTag (String.ofList rest), some (lexer.line + newlines source : Nat)⟩)⟩ := by
  obtain ⟨opened, unclosed⟩ := find_unclosed_iff.mp found
  have entered := enter_eq outside.fresh before
  have counted : (lexer.enter before).line + newlines rest = lexer.line + newlines source := by
    rw [Text.search_splits opened, entered]
    simp only [newlines, List.count_append, outside.visible.count_opening]
    omega
  have without : rest.dropInfix? (lexer.enter before).delimiters.closing.chars = none := by
    rw [entered]
    exact unclosed
  rw [outside.scan_opened opened, (outside.enter before).scan_without without, counted,
    enter_tokens outside.fresh, List.append_assoc, entered]

theorem Outside.scan_tag (outside : lexer.Outside)
    (found : lexer.delimiters.find source = .tag before content after) :
    lexer.scan source =
      match Tag.readBefore lexer.delimiters content after
          (lexer.line + newlines before + newlines content) with
      | .error error => ⟨lexer.tokens.reverse ++ Token.ofText before, some (.parse error)⟩
      | .ok (tag, rest) => (lexer.behind before content tag).scan rest := by
  obtain ⟨rest, opened, closed⟩ := find_tag_iff.mp found
  have entered := enter_eq outside.fresh before
  have inside := outside.enter before
  have tokens : ((lexer.enter before).pass content).tokens.reverse =
      lexer.tokens.reverse ++ Token.ofText before := enter_tokens outside.fresh before
  have delimiters : ((lexer.enter before).pass content).delimiters = lexer.delimiters := by
    rw [entered]
    rfl
  have line : ((lexer.enter before).pass content).line =
      lexer.line + newlines before + newlines content := by
    rw [entered]
    rfl
  rw [outside.scan_opened opened, inside.scan_closed (by rw [entered]; exact closed),
    scan_end_tag, pass_content inside.fresh, tokens, delimiters, line]
  rfl

/-- What the lexer does with a tag does not depend on what stands behind it. -/
theorem Outside.scan_ahead (outside : lexer.Outside) {tag : Tag}
    (found : lexer.delimiters.find source = .tag before content after)
    (told : Tag.readBefore lexer.delimiters content after
      (lexer.line + newlines before + newlines content) = .ok (tag, rest)) :
    ∃ tail, after = tail ++ rest ∧ newlines tail = 0 ∧
      ∀ text, lexer.scan (before ++ lexer.delimiters.opening.chars ++
          (content ++ lexer.delimiters.closing.chars ++ (tail ++ text))) =
        (lexer.behind before content tag).scan text := by
  obtain ⟨tail, whole, visible, again⟩ := read_before_ahead told
  refine ⟨tail, whole, visible, fun text => ?_⟩
  rw [outside.scan_tag (find_tag_ahead found (tail ++ text)), again text]

/-- The tokens for a tag and the text before it stand in front of all that is found behind it. -/
theorem Outside.scan_passed (outside : lexer.Outside) {tag : Tag} {tail : List Token}
    {failure : Option Fault}
    (found : lexer.delimiters.find source = .tag before content after)
    (told : Tag.readBefore lexer.delimiters content after
      (lexer.line + newlines before + newlines content) = .ok (tag, rest))
    (later : let next := lexer.behind before content tag
      let left := passNewline next.swallow next.line rest
      (next.wake left.1).scan left.2 = ⟨(next.wake left.1).tokens.reverse ++ tail, failure⟩) :
    lexer.scan source =
      ⟨lexer.tokens.reverse ++ (Token.ofText before ++
        .tag tag (lexer.line + newlines before + newlines content) :: tail), failure⟩ := by
  let next := lexer.behind before content tag
  have tokens : next.tokens.reverse = lexer.tokens.reverse ++ (Token.ofText before ++
      [.tag tag (lexer.line + newlines before + newlines content)]) :=
    behind_tokens outside.fresh before content tag
  have scanned := outside.scan_tag found
  rw [told] at scanned
  dsimp only at scanned
  rw [scanned, scan_wake next (by cases tag <;> rfl)]
  refine later.trans ?_
  change Scan.mk (next.tokens.reverse ++ tail) failure = _
  rw [tokens]
  simp

end Reading

/-- A scan goes from tag to tag. Behind each tag the lexer is outside of all tags again, as soon as
the newline is passed that may have to be dropped. -/
theorem Outside.scan_induction
    {motive : (lexer : Lexer) → (source : List Char) → lexer.Outside → Prop}
    (nothing : ∀ (lexer : Lexer) (source : List Char) (outside : lexer.Outside),
      lexer.delimiters.find source = .nothing → motive lexer source outside)
    (unclosed : ∀ (lexer : Lexer) (source before rest : List Char) (outside : lexer.Outside),
      lexer.delimiters.find source = .unclosed before rest → motive lexer source outside)
    (refused : ∀ (lexer : Lexer) (source before content after : List Char) (error : ParseError)
        (outside : lexer.Outside),
      lexer.delimiters.find source = .tag before content after →
      Tag.readBefore lexer.delimiters content after
        (lexer.line + newlines before + newlines content) = .error error →
      motive lexer source outside)
    (passed : ∀ (lexer : Lexer) (source before content after : List Char) (tag : Tag)
        (rest : List Char) (outside : lexer.Outside),
      lexer.delimiters.find source = .tag before content after →
      Tag.readBefore lexer.delimiters content after
        (lexer.line + newlines before + newlines content) = .ok (tag, rest) →
      let next := lexer.behind before content tag
      let left := passNewline next.swallow next.line rest
      ∀ behind : (next.wake left.1).Outside, motive (next.wake left.1) left.2 behind →
        motive lexer source outside)
    (lexer : Lexer) (source : List Char) (outside : lexer.Outside) :
    motive lexer source outside := by
  induction sized : source.length using Nat.strong_induction_on generalizing lexer source with
  | h size induction =>
      cases found : lexer.delimiters.find source with
      | nothing => exact nothing lexer source outside found
      | unclosed before rest => exact unclosed lexer source before rest outside found
      | tag before content after =>
          cases told : Tag.readBefore lexer.delimiters content after
              (lexer.line + newlines before + newlines content) with
          | error error => exact refused lexer source before content after error outside found told
          | ok result =>
              obtain ⟨tag, rest⟩ := result
              let next := lexer.behind before content tag
              let left := passNewline next.swallow next.line rest
              have behind := outside.behind_awake before content tag left.1
                (read_before_visible outside.visible told)
              have shorter : left.2.length < size := by
                calc
                  left.2.length ≤ rest.length := pass_newline_le _ _ _
                  _ ≤ after.length := read_before_le told
                  _ < source.length := find_tag_shorter found
                  _ = size := sized
              exact passed lexer source before content after tag rest outside found told behind
                (induction left.2.length shorter (next.wake left.1) left.2 behind rfl)

end Lexer

end Mustache
