import Mustache.Proofs.Delimiters
import Mustache.Proofs.Text.Infix

/-!
How the lexer finds a marker. Outside of tags it looks for the opening marker, inside of one for
the closing marker, and in both places it does so in two modes: in one of them the first character
of the marker has been read and is held back. A hunt is what the two places have in common. It ends
exactly behind the leftmost occurrence of the marker.
-/

namespace Mustache

set_option autoImplicit false

namespace Lexer

def inMode (lexer : Lexer) (mode : Mode) : Lexer := { lexer with mode := mode }

/-- The lexer after characters in which no marker begins. -/
def pass (lexer : Lexer) (text : List Char) : Lexer :=
  { lexer with
    pending := text.reverse ++ lexer.pending
    line := lexer.line + text.count '\n' }

/-- The lexer with the line of a character counted. -/
def count (lexer : Lexer) (c : Char) : Lexer :=
  { lexer with line := lexer.line + [c].count '\n' }

@[simp]
theorem pass_nil (lexer : Lexer) : lexer.pass [] = lexer := rfl

@[simp]
theorem pass_pass (lexer : Lexer) (first second : List Char) :
    (lexer.pass first).pass second = lexer.pass (first ++ second) := by
  simp [pass, List.count_append, Nat.add_assoc]

@[simp]
theorem push_count (lexer : Lexer) (c : Char) : (lexer.count c).push c = lexer.pass [c] := rfl

theorem count_visible {c : Char} (visible : c ≠ '\n') (lexer : Lexer) : lexer.count c = lexer := by
  simp [count, visible]

theorem push_visible {c : Char} (visible : c ≠ '\n') (lexer : Lexer) :
    lexer.push c = lexer.pass [c] := by
  rw [← push_count, count_visible visible]

def feedAfter (lexer : Lexer) (result : Except ParseError Lexer) (rest : List Char) :
    Except Scan Lexer :=
  match result with
  | .ok next => next.feed rest
  | .error error => .error ⟨lexer.tokens.reverse, some (.parse error)⟩

theorem feed_cons (lexer : Lexer) (c : Char) (rest : List Char) :
    lexer.feed (c :: rest) = lexer.feedAfter (lexer.step c) rest := by
  rw [feed]
  cases lexer.step c <;> rfl

theorem feed_cons_ok {lexer next : Lexer} {c : Char} {rest : List Char}
    (fed : lexer.feed (c :: rest) = .ok next) :
    ∃ between, lexer.step c = .ok between ∧ between.feed rest = .ok next := by
  rw [feed_cons] at fed
  cases stepped : lexer.step c with
  | ok between =>
      rw [stepped] at fed
      exact ⟨between, rfl, fed⟩
  | error error =>
      rw [stepped] at fed
      cases fed

/-- Where no third brace is due, a step counts lines first. A newline may then be dropped. -/
theorem step_counted {lexer : Lexer} (ordinary : ∀ content, lexer.mode ≠ .thirdBrace content)
    (c : Char) :
    let counted := { lexer.count c with swallow := false }
    lexer.step c = if c = '\n' && lexer.swallow then .ok counted else counted.accept c := by
  have counted : (if c = '\n' then lexer.line + 1 else lexer.line) =
      lexer.line + [c].count '\n' := by
    by_cases newline : c = '\n' <;> simp [newline]
  unfold step count
  split
  · next content mode => exact (ordinary content mode).elim
  · simp only [counted]

/-- Where nothing is dropped either, a step takes the character for what it is. -/
theorem step_ordinary {lexer : Lexer} (ordinary : ∀ content, lexer.mode ≠ .thirdBrace content)
    (awake : lexer.swallow = false) (c : Char) :
    lexer.step c = (lexer.count c).accept c := by
  have same : { lexer.count c with swallow := false } = lexer.count c := by
    rw [count, ← awake]
  rw [step_counted ordinary]
  dsimp only
  rw [same, awake, Bool.and_false, if_neg Bool.false_ne_true]

end Lexer

/-- `found` is what happens when the marker is complete, `seek` and `hold` are the modes without
and with its first character held back. -/
structure Hunt (delimiters : Delimiters) where
  marker : Marker
  seek : Mode
  hold : Mode
  found : Lexer → Except ParseError Lexer
  seek_ordinary : ∀ content, seek ≠ .thirdBrace content
  hold_ordinary : ∀ content, hold ≠ .thirdBrace content
  found_mode : ∀ lexer mode, found (lexer.inMode mode) = found lexer
  accept_seek : ∀ lexer c, lexer.delimiters = delimiters → lexer.mode = seek →
    lexer.accept c =
      if c = marker.first then
        if marker.second.isNone then found lexer else .ok (lexer.inMode hold)
      else .ok (lexer.push c)
  accept_hold : ∀ lexer c, lexer.delimiters = delimiters → lexer.mode = hold →
    lexer.accept c =
      if marker.second = some c then found lexer
      else if c = marker.first then .ok (lexer.push marker.first)
      else .ok (((lexer.push marker.first).push c).inMode seek)

namespace Hunt

def forOpening (delimiters : Delimiters) : Hunt delimiters where
  marker := delimiters.opening
  seek := .text
  hold := .opening
  found lexer := .ok lexer.enterTag
  seek_ordinary _ same := Mode.noConfusion same
  hold_ordinary _ same := Mode.noConfusion same
  found_mode lexer mode := by
    rcases lexer with ⟨_, _, pending, _, _, _, _⟩
    cases pending <;> rfl
  accept_seek lexer c same mode := by
    subst same
    simp only [Lexer.accept, mode]
    rfl
  accept_hold lexer c same mode := by
    subst same
    simp only [Lexer.accept, mode]
    rfl

def forClosing (delimiters : Delimiters) : Hunt delimiters where
  marker := delimiters.closing
  seek := .tag
  hold := .closing
  found := Lexer.endTag
  seek_ordinary _ same := Mode.noConfusion same
  hold_ordinary _ same := Mode.noConfusion same
  found_mode _ _ := rfl
  accept_seek lexer c same mode := by
    subst same
    simp only [Lexer.accept, mode]
    rfl
  accept_hold lexer c same mode := by
    subst same
    simp only [Lexer.accept, mode]
    rfl

variable {delimiters : Delimiters} (hunt : Hunt delimiters)

def atEnd (lexer : Lexer) (text : List Char) : Lexer :=
  if hunt.marker.second.isSome ∧ text.getLast? = some hunt.marker.first then
    (lexer.pass text.dropLast).inMode hunt.hold
  else lexer.pass text

def outcome (lexer : Lexer) (text : List Char) : Except Scan Lexer :=
  match text.dropInfix? hunt.marker.chars with
  | none => .ok (hunt.atEnd lexer text)
  | some (before, rest) => lexer.feedAfter (hunt.found (lexer.pass before)) rest

/-- A character that is no beginning of the marker is passed. -/
theorem outcome_cons (lexer : Lexer) {c : Char} {rest : List Char}
    (absent : ¬ hunt.marker.chars <+: c :: rest) (free : c ≠ hunt.marker.first ∨ rest ≠ []) :
    hunt.outcome lexer (c :: rest) = hunt.outcome (lexer.pass [c]) rest := by
  have ending : hunt.atEnd lexer (c :: rest) = hunt.atEnd (lexer.pass [c]) rest := by
    unfold atEnd
    cases rest with
    | nil =>
        have other : c ≠ hunt.marker.first := free.resolve_right fun filled => filled rfl
        simp [other]
    | cons next rest => simp
  unfold outcome
  rw [Text.search_further absent]
  cases rest.dropInfix? hunt.marker.chars with
  | none => simp only [Option.map_none, ending]
  | some found =>
      simp only [Option.map_some, Lexer.pass_pass, List.singleton_append]
      rfl

theorem outcome_here (lexer : Lexer) (rest : List Char) :
    hunt.outcome lexer (hunt.marker.chars ++ rest) = lexer.feedAfter (hunt.found lexer) rest := by
  rw [outcome, Text.search_here]
  rfl

/-- The marker is visible: reading it counts no line. -/
def Visible : Prop := '\n' ∉ hunt.marker.chars

theorem step_seek {lexer : Lexer} (visible : hunt.Visible) (same : lexer.delimiters = delimiters)
    (awake : lexer.swallow = false) (mode : lexer.mode = hunt.seek) (c : Char) :
    lexer.step c =
      if c = hunt.marker.first then
        if hunt.marker.second.isNone then hunt.found lexer else .ok (lexer.inMode hunt.hold)
      else .ok (lexer.pass [c]) := by
  rw [Lexer.step_ordinary (mode ▸ hunt.seek_ordinary) awake,
    hunt.accept_seek (lexer.count c) c same mode, Lexer.push_count]
  by_cases first : c = hunt.marker.first
  · have plain : c ≠ '\n' := by
      intro newline
      exact visible (by simp [Marker.chars, ← first, newline])
    rw [Lexer.count_visible plain]
  · rw [if_neg first, if_neg first]

theorem step_hold {lexer : Lexer} {second : Char} (visible : hunt.Visible)
    (double : hunt.marker.second = some second) (same : lexer.delimiters = delimiters)
    (awake : lexer.swallow = false) (mode : lexer.mode = hunt.seek) (c : Char) :
    (lexer.inMode hunt.hold).step c =
      if c = second then hunt.found lexer
      else if c = hunt.marker.first then .ok ((lexer.pass [hunt.marker.first]).inMode hunt.hold)
      else .ok (lexer.pass [hunt.marker.first, c]) := by
  have firstPlain : hunt.marker.first ≠ '\n' := by
    intro newline
    exact visible (by simp [Marker.chars, newline])
  have held : (lexer.inMode hunt.hold).swallow = false := awake
  rw [Lexer.step_ordinary hunt.hold_ordinary held,
    hunt.accept_hold ((lexer.inMode hunt.hold).count c) c same rfl, double]
  by_cases complete : c = second
  · have plain : c ≠ '\n' := by
      intro newline
      exact visible (by simp [Marker.chars, double, ← complete, newline])
    rw [if_pos (by rw [complete]), if_pos complete, Lexer.count_visible plain, hunt.found_mode]
  · rw [if_neg (fun equal => complete (Option.some.inj equal).symm), if_neg complete]
    by_cases first : c = hunt.marker.first
    · rw [if_pos first, if_pos first, Lexer.count_visible (first ▸ firstPlain),
        Lexer.push_visible firstPlain]
      rfl
    · rw [if_neg first, if_neg first, Lexer.push_visible firstPlain]
      have passed : ((((lexer.inMode hunt.hold).count c).pass [hunt.marker.first]).push c).inMode
          hunt.seek = lexer.pass [hunt.marker.first, c] := by
        simp [Lexer.inMode, Lexer.count, Lexer.pass, Lexer.push, firstPlain, ← mode]
      rw [passed]

theorem not_prefix_of_first {c : Char} {rest : List Char} (other : c ≠ hunt.marker.first) :
    ¬ hunt.marker.chars <+: c :: rest := by
  intro starts
  exact other (List.cons_prefix_cons.mp starts).1.symm

theorem not_prefix_of_second {second c : Char} {rest : List Char}
    (double : hunt.marker.second = some second) (other : c ≠ second) :
    ¬ hunt.marker.chars <+: hunt.marker.first :: c :: rest := by
  intro starts
  simp only [Marker.chars, double, Option.toList_some, List.cons_prefix_cons, true_and] at starts
  exact other starts.1.symm

/-- Both modes at once: with a first character held back the lexer does what it would do if that
character were still to come. -/
theorem feed_both (visible : hunt.Visible) (text : List Char) (lexer : Lexer)
    (same : lexer.delimiters = delimiters) (awake : lexer.swallow = false)
    (mode : lexer.mode = hunt.seek) :
    lexer.feed text = hunt.outcome lexer text ∧
      ∀ second, hunt.marker.second = some second →
        (lexer.inMode hunt.hold).feed text = hunt.outcome lexer (hunt.marker.first :: text) := by
  induction text generalizing lexer with
  | nil =>
      constructor
      · rw [outcome, Text.search_empty hunt.marker.chars_ne_nil]
        simp [Lexer.feed, atEnd]
      · intro second double
        have absent : ¬ hunt.marker.chars <+: [hunt.marker.first] := by
          simp [Marker.chars, double]
        rw [outcome, Text.search_further absent, Text.search_empty hunt.marker.chars_ne_nil]
        simp [Lexer.feed, atEnd, double]
  | cons c rest induction =>
      constructor
      · rw [Lexer.feed_cons, hunt.step_seek visible same awake mode]
        by_cases first : c = hunt.marker.first
        · rw [if_pos first]
          cases double : hunt.marker.second with
          | none =>
              have here := hunt.outcome_here lexer rest
              simp only [Marker.chars, double, Option.toList_none, List.singleton_append] at here
              rw [first, here]
              simp
          | some second =>
              rw [first]
              exact (induction lexer same awake mode).2 second double
        · rw [if_neg first, hunt.outcome_cons lexer (hunt.not_prefix_of_first first) (.inl first)]
          exact (induction (lexer.pass [c]) same awake mode).1
      · intro second double
        rw [Lexer.feed_cons, hunt.step_hold visible double same awake mode]
        by_cases complete : c = second
        · have here := hunt.outcome_here lexer rest
          simp only [Marker.chars, double, Option.toList_some, List.cons_append,
            List.nil_append] at here
          rw [if_pos complete, complete, here]
          rfl
        · rw [if_neg complete, hunt.outcome_cons lexer
            (hunt.not_prefix_of_second double complete) (.inr (by simp))]
          -- The character that was held back is passed. In its place this one is held back, if
          -- the marker may begin with it.
          by_cases first : c = hunt.marker.first
          · rw [if_pos first, first]
            exact (induction (lexer.pass [hunt.marker.first]) same awake mode).2 second double
          · rw [if_neg first, hunt.outcome_cons (lexer.pass [hunt.marker.first])
              (hunt.not_prefix_of_first first) (.inl first), Lexer.pass_pass]
            exact (induction (lexer.pass [hunt.marker.first, c]) same awake mode).1

end Hunt

end Mustache
