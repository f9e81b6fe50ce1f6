import Mustache.Proofs.Delimiters
import Mustache.Proofs.Text.Infix

/-!
Finding tags by search. The text before a tag goes up to the leftmost occurrence of the opening
marker, the content of the tag up to the leftmost occurrence of the closing marker after that.
What a tag says depends on its content and the markers in force, and with three braces on the
character behind it.
-/

namespace Mustache

set_option autoImplicit false

/-- The first tag of a text, found by search. -/
inductive Found where
  | nothing
  | unclosed (before rest : List Char)
  | tag (before content after : List Char)
  deriving DecidableEq, Repr

def Delimiters.find (delimiters : Delimiters) (source : List Char) : Found :=
  match source.dropInfix? delimiters.opening.chars with
  | none => .nothing
  | some (before, rest) =>
      match rest.dropInfix? delimiters.closing.chars with
      | none => .unclosed before rest
      | some (content, after) => .tag before content after

namespace Tag

def readPlain (delimiters : Delimiters) (content : List Char) (line : Nat) :
    Except ParseError Tag :=
  if delimiters.opening.chars <:+: content then
    .error ⟨.openerInTag (String.ofList content), some line⟩
  else Tag.read content line

/-- A directive stands between two different equals signs. -/
def readDirective (delimiters : Delimiters) (content : List Char) (line : Nat) :
    Except ParseError Tag :=
  if 2 ≤ content.length ∧ content.getLast? = some '=' then
    (delimiters.update (String.ofList content.tail.dropLast) (some line)).map .directive
  else .error ⟨.badDelimiterTag (String.ofList content), some line⟩

/-- With the standard markers a content that begins with a brace takes a third closing brace. -/
def isTriple (delimiters : Delimiters) (content : List Char) : Prop :=
  delimiters = .standard ∧ content.head? = some '{'

instance (delimiters : Delimiters) (content : List Char) :
    Decidable (isTriple delimiters content) := inferInstanceAs (Decidable (_ ∧ _))

/-- What a tag says whose closing marker has been found, and what is left behind it. -/
def readBefore (delimiters : Delimiters) (content after : List Char) (line : Nat) :
    Except ParseError (Tag × List Char) :=
  if content.head? = some '=' then
    (readDirective delimiters content line).map (·, after)
  else if isTriple delimiters content then
    match after with
    | '}' :: after => (readPlain delimiters ('&' :: content.tail) line).map (·, after)
    | _ => .error ⟨.badTripleTag (String.ofList content), some line⟩
  else (readPlain delimiters content line).map (·, after)

def delimitersAfter (delimiters : Delimiters) : Tag → Delimiters
  | .directive replaced => replaced
  | _ => delimiters

end Tag

def newlines (text : List Char) : Nat := text.count '\n'

def passNewline (drops : Bool) (line : Nat) : List Char → Nat × List Char
  | c :: rest => if drops && c == '\n' then (line + 1, rest) else (line, c :: rest)
  | [] => (line, [])

theorem pass_newline_le (drops : Bool) (line : Nat) (text : List Char) :
    (passNewline drops line text).2.length ≤ text.length := by
  cases text with
  | nil => simp [passNewline]
  | cons c rest =>
      rw [passNewline]
      split <;> simp

theorem pass_newline_front (drops : Bool) (line : Nat) (text : List Char) :
    let left := passNewline drops line text
    ∃ dropped, text = dropped ++ left.2 ∧ left.1 = line + newlines dropped ∧
      ∀ front, front <+: left.2 → passNewline drops line (dropped ++ front) = (left.1, front) := by
  cases text with
  | nil =>
      refine ⟨[], rfl, rfl, ?_⟩
      rintro front ⟨rest, whole⟩
      obtain ⟨rfl, _⟩ := List.append_eq_nil_iff.mp whole
      rfl
  | cons c rest =>
      by_cases newline : (drops && c == '\n') = true
      · have passed (text : List Char) : passNewline drops line (c :: text) = (line + 1, text) :=
          if_pos newline
        have same : c = '\n' := by simpa using (Bool.and_eq_true_iff.mp newline).2
        rw [passed]
        exact ⟨[c], rfl, by simp [newlines, same], fun front _ => passed front⟩
      · have kept (text : List Char) : passNewline drops line (c :: text) = (line, c :: text) :=
          if_neg newline
        rw [kept]
        refine ⟨[], rfl, rfl, ?_⟩
        intro front inside
        cases front with
        | nil => rfl
        | cons first others =>
            obtain ⟨rfl, _⟩ := List.cons_prefix_cons.mp inside
            exact kept others

theorem require_one_line_ok {content : List Char} {line : Nat} {result tag : Tag}
    (told : Tag.requireOneLine content line result = .ok tag) : result = tag := by
  unfold Tag.requireOneLine at told
  split at told
  · cases told
  · exact Except.ok.inj told

theorem read_not_directive {content : List Char} {line : Nat} {delimiters : Delimiters} :
    Tag.read content line ≠ .ok (.directive delimiters) := by
  intro told
  unfold Tag.read at told
  dsimp only at told
  split at told
  · cases told
  · split_ifs at told <;> first | cases require_one_line_ok told | cases told

/-- The three ways of writing a tag: as a directive, with three braces, and plainly. -/
theorem read_before_cases {delimiters : Delimiters} {content after rest : List Char} {line : Nat}
    {tag : Tag} (told : Tag.readBefore delimiters content after line = .ok (tag, rest)) :
    (content.head? = some '=' ∧ rest = after ∧
        Tag.readDirective delimiters content line = .ok tag) ∨
      (Tag.isTriple delimiters content ∧ after = '}' :: rest ∧
        Tag.readPlain delimiters ('&' :: content.tail) line = .ok tag) ∨
      (¬ Tag.isTriple delimiters content ∧ content.head? ≠ some '=' ∧ rest = after ∧
        Tag.readPlain delimiters content line = .ok tag) := by
  have kept {result : Except ParseError Tag} {left : List Char}
      (same : result.map (·, left) = .ok (tag, rest)) : rest = left ∧ result = .ok tag := by
    cases result with
    | error error => cases same
    | ok value => cases same; exact ⟨rfl, rfl⟩
  unfold Tag.readBefore at told
  split at told
  · next directive => exact .inl ⟨directive, kept told⟩
  · next plain =>
      split at told
      · next triple =>
          split at told
          · obtain ⟨rfl, read⟩ := kept told
            exact .inr (.inl ⟨triple, rfl, read⟩)
          · cases told
      · next single => exact .inr (.inr ⟨single, plain, kept told⟩)

/-- What a tag takes of the text behind it is a third brace at most, and what it says does not depend
on anything further. -/
theorem read_before_ahead {delimiters : Delimiters} {content after rest : List Char} {line : Nat}
    {tag : Tag} (told : Tag.readBefore delimiters content after line = .ok (tag, rest)) :
    ∃ brace, after = brace ++ rest ∧ newlines brace = 0 ∧
      ∀ text, Tag.readBefore delimiters content (brace ++ text) line = .ok (tag, text) := by
  rcases read_before_cases told with
    ⟨directive, rfl, read⟩ | ⟨triple, rfl, read⟩ | ⟨single, plain, rfl, read⟩
  · refine ⟨[], rfl, rfl, fun text => ?_⟩
    unfold Tag.readBefore
    rw [if_pos directive, read]
    rfl
  · have brace : content.head? ≠ some '=' := by simp [triple.2]
    refine ⟨['}'], rfl, rfl, fun text => ?_⟩
    unfold Tag.readBefore
    rw [if_neg brace, if_pos triple]
    change (Tag.readPlain delimiters ('&' :: content.tail) line).map (·, text) = _
    rw [read]
    rfl
  · refine ⟨[], rfl, rfl, fun text => ?_⟩
    unfold Tag.readBefore
    rw [if_neg plain, if_neg single, read]
    rfl

theorem read_before_le {delimiters : Delimiters} {content after rest : List Char} {line : Nat}
    {tag : Tag} (told : Tag.readBefore delimiters content after line = .ok (tag, rest)) :
    rest.length ≤ after.length := by
  rcases read_before_cases told with ⟨_, rfl, _⟩ | ⟨_, rfl, _⟩ | ⟨_, _, rfl, _⟩ <;> simp

theorem read_plain_not_directive {delimiters replaced : Delimiters} {content : List Char}
    {line : Nat} : Tag.readPlain delimiters content line ≠ .ok (.directive replaced) := by
  unfold Tag.readPlain
  split
  · nofun
  · exact read_not_directive

theorem read_before_visible {delimiters : Delimiters} {content after rest : List Char}
    {line : Nat} {tag : Tag} (visible : delimiters.Visible)
    (told : Tag.readBefore delimiters content after line = .ok (tag, rest)) :
    (tag.delimitersAfter delimiters).Visible := by
  cases tag with
  | directive replaced =>
      rcases read_before_cases told with ⟨_, _, directive⟩ | ⟨_, _, plain⟩ | ⟨_, _, _, plain⟩
      · unfold Tag.readDirective at directive
        split at directive
        · cases updated : delimiters.update (String.ofList content.tail.dropLast) (some line) with
          | error error =>
              rw [updated] at directive
              cases directive
          | ok next =>
              rw [updated] at directive
              cases directive
              exact Delimiters.update_visible updated
        · cases directive
      · exact (read_plain_not_directive plain).elim
      · exact (read_plain_not_directive plain).elim
  | _ => exact visible

theorem read_plain_line {delimiters : Delimiters} {content : List Char} {line : Nat}
    {error : ParseError} (refused : Tag.readPlain delimiters content line = .error error) :
    error.line = some (line : Int) := by
  have one {tag : List Char} {result : Tag}
      (broken : Tag.requireOneLine tag line result = .error error) :
      error.line = some (line : Int) := by
    unfold Tag.requireOneLine at broken
    split at broken
    · cases broken
      rfl
    · cases broken
  unfold Tag.readPlain at refused
  split at refused
  · cases refused
    rfl
  · unfold Tag.read at refused
    dsimp only at refused
    split at refused
    · cases refused
      rfl
    · split_ifs at refused <;> exact one refused

theorem read_directive_line {delimiters : Delimiters} {content : List Char} {line : Nat}
    {error : ParseError} (refused : Tag.readDirective delimiters content line = .error error) :
    error.line = some (line : Int) := by
  unfold Tag.readDirective at refused
  split at refused
  · unfold Delimiters.update at refused
    split at refused
    · cases refused
    · cases refused
      rfl
  · cases refused
    rfl

theorem read_before_line {delimiters : Delimiters} {content after : List Char} {line : Nat}
    {error : ParseError} (refused : Tag.readBefore delimiters content after line = .error error) :
    error.line = some (line : Int) := by
  have kept {result : Except ParseError Tag} {left : List Char}
      (same : result.map (·, left) = .error error) : result = .error error := by
    cases result with
    | error other =>
        cases same
        rfl
    | ok tag => cases same
  unfold Tag.readBefore at refused
  split at refused
  · exact read_directive_line (kept refused)
  · split at refused
    · split at refused
      · exact read_plain_line (kept refused)
      · cases refused
        rfl
    · exact read_plain_line (kept refused)

section Find

variable {delimiters : Delimiters} {source before rest content after : List Char}

theorem find_nothing_iff :
    delimiters.find source = .nothing ↔ source.dropInfix? delimiters.opening.chars = none := by
  unfold Delimiters.find
  cases source.dropInfix? delimiters.opening.chars with
  | none => simp
  | some opened =>
      dsimp only
      split <;> simp

theorem find_unclosed_iff :
    delimiters.find source = .unclosed before rest ↔
      source.dropInfix? delimiters.opening.chars = some (before, rest) ∧
        rest.dropInfix? delimiters.closing.chars = none := by
  unfold Delimiters.find
  cases source.dropInfix? delimiters.opening.chars with
  | none => simp
  | some opened =>
      dsimp only
      split
      · next unclosed =>
          simp only [Found.unclosed.injEq, Option.some.injEq, Prod.ext_iff]
          exact ⟨fun same => ⟨same, same.2 ▸ unclosed⟩, And.left⟩
      · next closed =>
          simp only [reduceCtorEq, Option.some.injEq, Prod.ext_iff, false_iff, not_and]
          rintro ⟨_, rfl⟩
          simp [closed]

theorem find_tag_iff :
    delimiters.find source = .tag before content after ↔
      ∃ rest, source.dropInfix? delimiters.opening.chars = some (before, rest) ∧
        rest.dropInfix? delimiters.closing.chars = some (content, after) := by
  unfold Delimiters.find
  cases source.dropInfix? delimiters.opening.chars with
  | none => simp
  | some opened =>
      dsimp only
      split
      · next unclosed =>
          simp only [reduceCtorEq, Option.some.injEq, Prod.ext_iff, false_iff, not_exists, not_and]
          rintro rest ⟨_, rfl⟩
          simp [unclosed]
      · next closed =>
          constructor
          · rintro ⟨⟩
            exact ⟨opened.2, rfl, closed⟩
          · rintro ⟨rest, ⟨⟩, again⟩
            rw [closed] at again
            cases again
            rfl

theorem find_tag_splits (found : delimiters.find source = .tag before content after) :
    source =
      before ++ delimiters.opening.chars ++ (content ++ delimiters.closing.chars ++ after) := by
  obtain ⟨rest, opened, closed⟩ := find_tag_iff.mp found
  rw [Text.search_splits opened, Text.search_splits closed]

theorem find_tag_shorter (found : delimiters.find source = .tag before content after) :
    after.length < source.length := by
  have positive := List.length_pos_iff.mpr delimiters.opening.chars_ne_nil
  rw [find_tag_splits found]
  simp only [List.length_append]
  omega

theorem find_tag_front (found : delimiters.find source = .tag before content after) :
    delimiters.find before = .nothing := by
  obtain ⟨rest, opened, _⟩ := find_tag_iff.mp found
  exact find_nothing_iff.mpr (Text.search_front delimiters.opening.chars_ne_nil opened)

/-- Where the first tag ends does not depend on what stands behind it. -/
theorem find_tag_ahead (found : delimiters.find source = .tag before content after)
    (rest : List Char) :
    delimiters.find (before ++ delimiters.opening.chars ++
      (content ++ delimiters.closing.chars ++ rest)) = .tag before content rest := by
  obtain ⟨inner, opened, closed⟩ := find_tag_iff.mp found
  exact find_tag_iff.mpr ⟨_, Text.search_ahead opened _, Text.search_ahead closed rest⟩

theorem find_tag_here (found : delimiters.find source = .tag before content after) :
    delimiters.find (delimiters.opening.chars ++ (content ++ delimiters.closing.chars ++ after)) =
      .tag [] content after := by
  obtain ⟨inner, opened, closed⟩ := find_tag_iff.mp found
  exact find_tag_iff.mpr ⟨_, Text.search_here _, Text.search_ahead closed after⟩

end Find

end Mustache
