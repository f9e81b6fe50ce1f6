import Mustache.Proofs.Token.Scan

/-!
The characters of a source, and that nothing else of a source matters: how a stream cuts its text
into pieces does not show. A stream that fails is never scanned to its end. Nothing but a tag and
such a failure can end a scan early.
-/

namespace Mustache

set_option autoImplicit false

/-- The characters that a source delivers. A stream ends at its first empty piece. -/
def Source.characters : Source → List Char
  | .text content => content.toList
  | .stream pieces _ _ => (pieces.takeWhile (!·.isEmpty)).flatMap String.toList

def Source.readFailure : Source → Option Fault
  | .text _ => none
  | .stream _ failure _ => failure

def Source.closeFailure : Source → Option Fault
  | .text _ => none
  | .stream _ _ closing => closing

namespace Lexer

theorem feed_append (lexer : Lexer) (first second : List Char) :
    lexer.feed (first ++ second) = lexer.feed first >>= fun next => next.feed second := by
  induction first generalizing lexer with
  | nil => rfl
  | cons c first induction =>
      rw [List.cons_append, feed, feed]
      cases lexer.step c with
      | ok next => exact induction next
      | error error => rfl

theorem feed_pieces_eq (lexer : Lexer) (pieces : List String) :
    lexer.feedPieces pieces =
      lexer.feed ((pieces.takeWhile (!·.isEmpty)).flatMap String.toList) := by
  induction pieces generalizing lexer with
  | nil => rfl
  | cons piece pieces induction =>
      rw [feedPieces]
      cases empty : piece.isEmpty with
      | true => simp [empty, feed]
      | false =>
          simp only [empty, Bool.false_eq_true, if_false, List.takeWhile_cons, Bool.not_false,
            if_true, List.flatMap_cons, feed_append]
          exact congrArg _ (funext fun next => induction next)

theorem feed_error_parse {lexer : Lexer} {text : List Char} {scan : Scan}
    (refused : lexer.feed text = .error scan) : ∃ error, scan.failure = some (.parse error) := by
  induction text generalizing lexer with
  | nil => cases refused
  | cons c text induction =>
      rw [feed] at refused
      cases stepped : lexer.step c with
      | ok next =>
          rw [stepped] at refused
          exact induction refused
      | error error =>
          rw [stepped] at refused
          cases refused
          exact ⟨error, rfl⟩

theorem finish_parse {lexer : Lexer} {fault : Fault} (failed : lexer.finish.failure = some fault) :
    ∃ error, fault = .parse error := by
  unfold finish at failed
  split at failed
  · exact ⟨_, (Option.some.inj failed).symm⟩
  · exact ⟨_, (Option.some.inj failed).symm⟩
  · cases failed
  · cases failed
  · cases failed

end Lexer

theorem scan_eq (source : Source) :
    source.scan =
      match Lexer.start.feed source.characters with
      | .ok lexer => lexer.finishWith source.readFailure
      | .error scan => scan := by
  cases source with
  | text content =>
      unfold Source.scan Source.characters
      dsimp only
      cases Lexer.start.feed content.toList <;> rfl
  | stream pieces failure closing =>
      unfold Source.scan Source.characters
      dsimp only
      rw [Lexer.feed_pieces_eq]
      cases Lexer.start.feed ((pieces.takeWhile (!·.isEmpty)).flatMap String.toList) <;> rfl

theorem scan_congr {source other : Source} (same : source.characters = other.characters)
    (failure : source.readFailure = other.readFailure) : source.scan = other.scan := by
  rw [scan_eq, scan_eq, same, failure]

theorem scan_text (text : List Char) :
    (Source.text (String.ofList text)).scan = Lexer.start.scan text := by
  unfold Source.scan
  simp only [String.toList_ofList]
  rfl

theorem Lexer.finish_tokens (lexer : Lexer) :
    ∃ more, lexer.finish.tokens = lexer.tokens.reverse ++ more := by
  unfold finish
  split
  · exact ⟨[], (List.append_nil _).symm⟩
  · exact ⟨[], (List.append_nil _).symm⟩
  · exact ⟨_, flush_tokens _⟩
  · exact ⟨_, flush_tokens _⟩
  · exact ⟨_, flush_tokens _⟩

/-- A source is scanned like the text that it delivers, unless reading it fails behind some of its
tokens. -/
theorem scan_cases (source : Source) :
    source.scan = Lexer.start.scan source.characters ∨
      ∃ fault more, source.readFailure = some fault ∧ source.scan.failure = some fault ∧
        (Lexer.start.scan source.characters).tokens = source.scan.tokens ++ more := by
  rw [scan_eq, Lexer.scan]
  cases fed : Lexer.start.feed source.characters with
  | error scan => exact .inl rfl
  | ok lexer =>
      cases read : source.readFailure with
      | none => exact .inl rfl
      | some fault =>
          obtain ⟨more, tokens⟩ := lexer.finish_tokens
          exact .inr ⟨fault, more, rfl, rfl, tokens⟩

theorem scan_of_characters {source : Source} (complete : source.scan.failure = none) :
    source.scan = (Source.text (String.ofList source.characters)).scan := by
  rw [scan_text]
  rcases scan_cases source with same | ⟨fault, more, _, failed, _⟩
  · exact same
  · cases complete.symm.trans failed

theorem scan_fault {source : Source} {fault : Fault} (failed : source.scan.failure = some fault) :
    (∃ error, fault = .parse error) ∨ source.readFailure = some fault := by
  rcases scan_cases source with same | ⟨read, more, broken, ends, _⟩
  · rw [same, Lexer.scan] at failed
    cases fed : Lexer.start.feed source.characters with
    | error scan =>
        obtain ⟨error, parsed⟩ := Lexer.feed_error_parse fed
        rw [fed] at failed
        exact .inl ⟨error, Option.some.inj (failed.symm.trans parsed)⟩
    | ok lexer =>
        rw [fed] at failed
        exact .inl (Lexer.finish_parse failed)
  · rw [ends] at failed
    cases failed
    exact .inr broken

end Mustache
