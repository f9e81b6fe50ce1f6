import Mustache.Proofs.Token.Stream

/-!
A source behind another one. If the first one ends outside of tags, with the standard markers and
in the middle of a text, then the second one is read as it is by itself, except that its lines are
counted on and that its first text goes on with the last one of the first. Without such a text it
could be seen that something stands before: a newline at the front would be dropped or kept by
what the tag before says.
-/

namespace Mustache

set_option autoImplicit false

def ParseError.moved (lines : Nat) (error : ParseError) : ParseError :=
  { error with line := error.line.map (· + lines) }

def Fault.moved (lines : Nat) : Fault → Fault
  | .parse error => .parse (error.moved lines)
  | fault => fault

def Token.moved (lines : Nat) : Token → Token
  | .text content => .text content
  | .tag said line => .tag said (line + lines)

def Scan.moved (lines : Nat) (earlier : List Token) (scan : Scan) : Scan :=
  ⟨earlier ++ scan.tokens.map (Token.moved lines), scan.failure.map (Fault.moved lines)⟩

@[simp] theorem ParseError.moved_none : ParseError.moved 0 = id := by
  funext error
  rcases error with ⟨cause, line⟩
  cases line <;> simp [ParseError.moved]

@[simp] theorem Fault.moved_none : Fault.moved 0 = id := by
  funext fault
  cases fault <;> simp [Fault.moved]

@[simp] theorem Token.moved_none : Token.moved 0 = id := by
  funext token
  cases token <;> rfl

theorem Token.reverse_of_text (content : List Char) :
    (Token.ofText content).reverse = Token.ofText content := by
  unfold Token.ofText
  split <;> rfl

namespace Tag

variable (lines : Nat) (delimiters : Delimiters) (content : List Char) (line : Nat)

theorem one_line_moved (result : Tag) :
    requireOneLine content (line + lines) result =
      (requireOneLine content line result).mapError (ParseError.moved lines) := by
  unfold requireOneLine
  split
  · simp [Except.mapError, ParseError.moved]
  · rfl

theorem read_plain_moved :
    readPlain delimiters content (line + lines) =
      (readPlain delimiters content line).mapError (ParseError.moved lines) := by
  unfold readPlain read
  simp only [one_line_moved]
  split
  · simp [Except.mapError, ParseError.moved]
  · split
    · simp [Except.mapError, ParseError.moved]
    · split_ifs <;> rfl

theorem read_directive_moved :
    readDirective delimiters content (line + lines) =
      (readDirective delimiters content line).mapError (ParseError.moved lines) := by
  unfold readDirective Delimiters.update
  split
  · split
    · rfl
    · simp [Except.mapError, Except.map, ParseError.moved]
  · simp [Except.mapError, ParseError.moved]

end Tag

namespace Lexer

def moved (lines : Nat) (earlier : List Token) (lexer : Lexer) : Lexer :=
  { lexer with
    line := lexer.line + lines
    tokens := lexer.tokens.map (Token.moved lines) ++ earlier }

section Moved

variable {lines : Nat} {earlier : List Token}

@[simp] theorem moved_mode (lexer : Lexer) : (lexer.moved lines earlier).mode = lexer.mode := rfl

@[simp] theorem moved_content (lexer : Lexer) :
    (lexer.moved lines earlier).content = lexer.content := rfl

@[simp] theorem moved_delimiters (lexer : Lexer) :
    (lexer.moved lines earlier).delimiters = lexer.delimiters := rfl

theorem flush_moved (lexer : Lexer) :
    (lexer.moved lines earlier).flush = lexer.flush.moved lines earlier := by
  rcases lexer with ⟨_, _, pending, _, _, _, _⟩
  cases pending <;> rfl

theorem enter_tag_moved (lexer : Lexer) :
    (lexer.moved lines earlier).enterTag = lexer.enterTag.moved lines earlier := by
  unfold enterTag
  rw [flush_moved]
  rfl

theorem close_moved (lexer : Lexer) (tag : Tag) :
    (lexer.moved lines earlier).close tag = (lexer.close tag).moved lines earlier := by
  cases tag <;> rfl

def movedResult (lines : Nat) (earlier : List Token) (result : Except ParseError Lexer) :
    Except ParseError Lexer :=
  (result.map (Lexer.moved lines earlier)).mapError (ParseError.moved lines)

theorem result_of_map {lexer : Lexer} {told told' : Except ParseError Tag}
    (same : told' = told.mapError (ParseError.moved lines)) :
    told'.map (lexer.moved lines earlier).close =
      movedResult lines earlier (told.map lexer.close) := by
  subst same
  cases told with
  | error error => rfl
  | ok tag => exact congrArg Except.ok (close_moved lexer tag)

theorem finish_tag_moved (lexer : Lexer) (content : List Char) :
    (lexer.moved lines earlier).finishTag content =
      movedResult lines earlier (lexer.finishTag content) := by
  rw [finish_tag_eq, finish_tag_eq]
  exact result_of_map (Tag.read_plain_moved lines _ content lexer.line)

theorem apply_directive_moved (lexer : Lexer) (content : List Char) :
    (lexer.moved lines earlier).applyDirective content =
      movedResult lines earlier (lexer.applyDirective content) := by
  rw [apply_directive_eq, apply_directive_eq]
  exact result_of_map (Tag.read_directive_moved lines _ content lexer.line)

theorem end_tag_moved (lexer : Lexer) :
    (lexer.moved lines earlier).endTag = movedResult lines earlier lexer.endTag := by
  unfold endTag
  simp only [moved_content, moved_delimiters, apply_directive_moved, finish_tag_moved,
    apply_ite (movedResult lines earlier)]
  rfl

theorem accept_moved (lexer : Lexer) (c : Char) :
    (lexer.moved lines earlier).accept c = movedResult lines earlier (lexer.accept c) := by
  unfold accept
  simp only [moved_mode, moved_delimiters, enter_tag_moved, end_tag_moved]
  split <;> simp only [apply_ite (movedResult lines earlier)] <;> rfl

theorem step_moved (lexer : Lexer) (c : Char) :
    (lexer.moved lines earlier).step c = movedResult lines earlier (lexer.step c) := by
  cases mode : lexer.mode with
  | thirdBrace content =>
      have refused : Except.error ((lexer.moved lines earlier).tripleError content) =
          movedResult lines earlier (.error (lexer.tripleError content)) := by
        simp [movedResult, Except.mapError, Except.map, tripleError, ParseError.moved, moved]
      unfold step
      simp only [moved_mode, mode, finish_tag_moved, refused, apply_ite (movedResult lines earlier)]
  | _ =>
      have counted : { (lexer.moved lines earlier).count c with swallow := false } =
          Lexer.moved lines earlier { lexer.count c with swallow := false } := by
        simp only [count, moved, Nat.add_right_comm]
      rw [step_counted (by simp [mode]), step_counted (by simp [mode])]
      dsimp only
      rw [counted, accept_moved, apply_ite (movedResult lines earlier)]
      rfl

theorem reversed_moved (lexer : Lexer) :
    (lexer.moved lines earlier).tokens.reverse =
      earlier.reverse ++ lexer.tokens.reverse.map (Token.moved lines) := by
  simp [moved]

theorem finish_moved (lexer : Lexer) :
    (lexer.moved lines earlier).finish = lexer.finish.moved lines earlier.reverse := by
  have flushed (lexer : Lexer) :
      Scan.mk (lexer.moved lines earlier).flush.tokens.reverse none =
        Scan.moved lines earlier.reverse ⟨lexer.flush.tokens.reverse, none⟩ := by
    rw [flush_moved, reversed_moved]
    rfl
  have refused (error error' : ParseError) (same : error' = error.moved lines) :
      Scan.mk (lexer.moved lines earlier).tokens.reverse (some (.parse error')) =
        Scan.moved lines earlier.reverse ⟨lexer.tokens.reverse, some (.parse error)⟩ := by
    rw [reversed_moved, same]
    rfl
  unfold finish
  simp only [moved_mode]
  split
  · exact refused _ _ (by simp [ParseError.moved, moved, content])
  · exact refused _ _ (by simp [ParseError.moved, moved, tripleError])
  · exact flushed (lexer.push lexer.delimiters.opening.first)
  · exact flushed (lexer.push lexer.delimiters.closing.first)
  · exact flushed lexer

/-- What a lexer makes of the rest of a source when more has been read before it. -/
theorem scan_moved (lexer : Lexer) (source : List Char) :
    (lexer.moved lines earlier).scan source =
      (lexer.scan source).moved lines earlier.reverse := by
  induction source generalizing lexer with
  | nil => exact finish_moved lexer
  | cons c rest induction =>
      rw [scan_cons, scan_cons, step_moved]
      cases lexer.step c with
      | ok next => exact induction next
      | error error =>
          simp [movedResult, scanAfter, Except.mapError, Except.map, moved, Fault.moved, Scan.moved]

end Moved

section Step

variable {lexer next : Lexer} {c : Char}

theorem step_line (stepped : lexer.step c = .ok next) :
    next.line = lexer.line + newlines [c] := by
  have flush_line (lexer : Lexer) : lexer.flush.line = lexer.line := by
    unfold flush
    split <;> rfl
  rcases step_cases stepped with ⟨mode, pending, rfl⟩ | rfl | ⟨tag, rfl⟩
  · rfl
  · exact flush_line _
  · cases tag <;> rfl

/-- A newline is only ever dropped at the very front of a text. -/
theorem step_swallow (stepped : lexer.step c = .ok next) (filled : next.pending ≠ []) :
    next.swallow = false := by
  have flush_swallow (lexer : Lexer) : lexer.flush.swallow = lexer.swallow := by
    unfold flush
    split <;> rfl
  rcases step_cases stepped with ⟨mode, pending, rfl⟩ | rfl | ⟨tag, rfl⟩
  · rfl
  · exact flush_swallow _
  · have emptied : (Lexer.close { lexer.count c with swallow := false } tag).pending = [] := by
      cases tag <;> rfl
    exact absurd emptied filled

end Step

section Feed

variable {lexer next : Lexer} {text : List Char}

theorem feed_line (fed : lexer.feed text = .ok next) :
    next.line = lexer.line + newlines text := by
  induction text generalizing lexer with
  | nil =>
      cases fed
      rfl
  | cons c text induction =>
      obtain ⟨between, stepped, rest⟩ := feed_cons_ok fed
      calc
        next.line = between.line + newlines text := induction rest
        _ = lexer.line + (newlines [c] + newlines text) := by
          rw [step_line stepped, Nat.add_assoc]
        _ = lexer.line + newlines (c :: text) := by
          rw [newlines, newlines, newlines, ← List.count_append, List.singleton_append]

theorem feed_swallow (calm : lexer.pending ≠ [] → lexer.swallow = false)
    (fed : lexer.feed text = .ok next) : next.pending ≠ [] → next.swallow = false := by
  induction text generalizing lexer with
  | nil =>
      cases fed
      exact calm
  | cons c text induction =>
      obtain ⟨between, stepped, rest⟩ := feed_cons_ok fed
      exact induction (step_swallow stepped) rest

end Feed

theorem flush_filled {lexer : Lexer} (filled : lexer.pending ≠ []) :
    lexer.flush =
      { lexer with
        pending := []
        atBlock := false
        tokens := .text (String.ofList lexer.content) :: lexer.tokens } := by
  have some : ¬ lexer.pending.isEmpty = true := by simpa using filled
  exact if_neg some

theorem pass_content_behind (lexer : Lexer) (text : List Char) :
    (lexer.pass text).content = lexer.content ++ text := by
  simp [pass, content]

structure Amid (lexer : Lexer) : Prop where
  mode : lexer.mode = .text
  standard : lexer.delimiters = .standard
  filled : lexer.pending ≠ []
  awake : lexer.swallow = false

theorem Amid.text {lexer : Lexer} (amid : lexer.Amid) (text : List Char) :
    Token.ofText (lexer.content ++ text) = [.text (String.ofList (lexer.content ++ text))] := by
  have filled : lexer.content ++ text ≠ [] := by simp [content, amid.filled]
  exact if_neg filled

/-- From the middle of a text a source is read as from the start, moved: its first text goes on with
what is already there. -/
theorem Amid.scan {lexer : Lexer} (amid : lexer.Amid) {lines : Nat}
    (counted : lexer.line = start.line + lines) (source : List Char) :
    ∃ text later,
      start.scan source = Scan.moved 0 (Token.ofText text) later ∧
      lexer.scan source = later.moved lines
        (lexer.tokens.reverse ++ [.text (String.ofList (lexer.content ++ text))]) := by
  obtain ⟨mode, standard, filled, awake⟩ := amid
  have visible := Delimiters.standard_visible
  let hunt := Hunt.forOpening .standard
  cases opened : source.dropInfix? Delimiters.standard.opening.chars with
  | none =>
      refine ⟨source, ⟨[], none⟩, ?_, ?_⟩
      · rw [start_outside.scan_without opened]
        simp [Scan.moved, start]
      · rw [hunt.scan_without visible.opening_visible standard awake mode opened]
        dsimp only [hunt]
        rw [← standard, finish_outside (standard ▸ visible) mode, pass_content_behind,
          Amid.text ⟨mode, standard, filled, awake⟩]
        simp [Scan.moved]
  | some found =>
      obtain ⟨before, rest⟩ := found
      -- Both lexers are now inside of the same tag, with other tokens and lines behind them.
      let inside : Lexer := { start with mode := .tag, line := start.line + newlines before }
      have entered : start.enter before = inside.moved 0 (Token.ofText before) := by
        rw [enter_eq start_outside.fresh]
        simp [inside, moved, start]
      have entered' : lexer.enter before = inside.moved lines
          (.text (String.ofList (lexer.content ++ before)) :: lexer.tokens) := by
        have some : (lexer.pass before).pending ≠ [] := by simp [pass, filled]
        rw [enter, enterTag, flush_filled some, pass_content_behind]
        simp [inside, moved, pass, counted, standard, awake, newlines, start,
          Nat.add_right_comm]
      have scanned : start.scan source = (start.enter before).scan rest :=
        start_outside.scan_opened opened
      have scanned' : lexer.scan source = (lexer.enter before).scan rest :=
        hunt.scan_found visible.opening_visible standard awake mode opened
      refine ⟨before, inside.scan rest, ?_, ?_⟩
      · rw [scanned, entered, scan_moved, Token.reverse_of_text]
      · rw [scanned', entered', scan_moved, List.reverse_cons]

end Lexer

def EndsInText (source : String) : Prop :=
  ∃ lexer, Lexer.start.feed source.toList = .ok lexer ∧ lexer.mode = .text ∧
    lexer.delimiters = .standard ∧ lexer.pending ≠ []

theorem Lexer.Amid.finish {lexer : Lexer} (amid : lexer.Amid) :
    lexer.finish = ⟨lexer.tokens.reverse ++ [.text (String.ofList lexer.content)], none⟩ := by
  have nothing := amid.text []
  rw [List.append_nil] at nothing
  have finished : lexer.finish = ⟨lexer.flush.tokens.reverse, none⟩ := by
    rw [Lexer.finish, amid.mode]
  rw [finished, Lexer.flush_tokens, nothing]

theorem Source.scan_from_start (text : String) :
    (Source.text text).scan = Lexer.start.scan text.toList := by
  rw [← scan_text, String.ofList_toList]

/-- The lexer behind such a source. What it makes of more is what it makes of the whole. -/
theorem EndsInText.amid {first : String} (ends : EndsInText first) :
    ∃ lexer : Lexer, lexer.Amid ∧ lexer.line = Lexer.start.line + newlines first.toList ∧
      ∀ second, (Source.text (first ++ second)).scan = lexer.scan second.toList := by
  obtain ⟨lexer, fed, mode, standard, filled⟩ := ends
  refine ⟨lexer, ⟨mode, standard, filled, Lexer.feed_swallow (fun _ => rfl) fed filled⟩,
    Lexer.feed_line fed, fun second => ?_⟩
  rw [Source.scan_from_start, String.toList_append, Lexer.scan, Lexer.feed_append, fed]
  rfl

/-- The tokens of a source behind another one are those of both, but for the text at the seam. -/
theorem scan_joined {first : String} (ends : EndsInText first) (second : String) :
    ∃ front content text later,
      (Source.text first).scan = ⟨front ++ [.text (String.ofList content)], none⟩ ∧
      (Source.text second).scan = Scan.moved 0 (Token.ofText text) later ∧
      (Source.text (first ++ second)).scan = later.moved (newlines first.toList)
        (front ++ [.text (String.ofList (content ++ text))]) := by
  obtain ⟨lexer, amid, counted, scanned⟩ := ends.amid
  obtain ⟨text, later, alone, behind⟩ := amid.scan counted second.toList
  refine ⟨lexer.tokens.reverse, lexer.content, text, later, ?_, ?_, ?_⟩
  · have alone := scanned ""
    rw [String.append_empty] at alone
    exact alone.trans amid.finish
  · rw [Source.scan_from_start, alone]
  · rw [scanned, behind]

end Mustache
