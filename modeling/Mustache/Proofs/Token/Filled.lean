import Mustache.Proofs.Token.Stream

/-!
No token of a source is an empty text. The lexer makes a text only of characters that it has read,
and once made a token stays.
-/

namespace Mustache

set_option autoImplicit false

def Token.Filled (token : Token) : Prop := token ≠ .text ""

namespace Lexer

def Filled (lexer : Lexer) : Prop := ∀ token ∈ lexer.tokens, token.Filled

variable {lexer : Lexer}

theorem Filled.flush (filled : lexer.Filled) : lexer.flush.Filled := by
  unfold Lexer.flush
  split
  · exact filled
  · next some =>
      have made : Token.Filled (.text (String.ofList lexer.content)) := by
        intro empty
        have nothing : lexer.content = [] := by simpa using Token.text.inj empty
        apply some
        simpa [content] using nothing
      exact List.forall_mem_cons.mpr ⟨made, filled⟩

theorem Filled.emit (filled : lexer.Filled) (tag : Tag) : (lexer.emit tag).Filled :=
  List.forall_mem_cons.mpr ⟨nofun, filled⟩

theorem Filled.close (filled : lexer.Filled) (tag : Tag) : (lexer.close tag).Filled := by
  cases tag <;> exact filled.emit _

theorem Filled.step (filled : lexer.Filled) {c : Char} {next : Lexer}
    (stepped : lexer.step c = .ok next) : next.Filled := by
  have counted : Lexer.Filled { lexer.count c with swallow := false } := filled
  rcases step_cases stepped with ⟨mode, pending, rfl⟩ | rfl | ⟨tag, rfl⟩
  · exact filled
  · exact counted.flush
  · exact counted.close tag

theorem Filled.feed (filled : lexer.Filled) (text : List Char) :
    (∀ next, lexer.feed text = .ok next → next.Filled) ∧
      ∀ scan, lexer.feed text = .error scan → ∀ token ∈ scan.tokens, token.Filled := by
  induction text generalizing lexer with
  | nil =>
      constructor
      · intro next fed
        cases fed
        exact filled
      · intro scan fed
        cases fed
  | cons c text induction =>
      rw [Lexer.feed]
      cases stepped : lexer.step c with
      | ok next => exact induction (filled.step stepped)
      | error error =>
          constructor
          · intro next fed
            cases fed
          · intro scan fed token member
            cases fed
            exact filled token (List.mem_reverse.mp member)

theorem Filled.reversed (filled : lexer.Filled) : ∀ token ∈ lexer.tokens.reverse, token.Filled :=
  fun token member => filled token (List.mem_reverse.mp member)

theorem Filled.finish (filled : lexer.Filled) : ∀ token ∈ lexer.finish.tokens, token.Filled := by
  have pushed (c : Char) : (lexer.push c).Filled := filled
  unfold Lexer.finish
  split
  · exact filled.reversed
  · exact filled.reversed
  · exact (pushed _).flush.reversed
  · exact (pushed _).flush.reversed
  · exact filled.flush.reversed

theorem Filled.finishWith (filled : lexer.Filled) (failure : Option Fault) :
    ∀ token ∈ (lexer.finishWith failure).tokens, token.Filled := by
  cases failure with
  | none => exact filled.finish
  | some fault => exact filled.reversed

end Lexer

theorem scan_filled (source : Source) : ∀ token ∈ source.scan.tokens, token.Filled := by
  have started : Lexer.start.Filled := nofun
  obtain ⟨goesOn, givesUp⟩ := started.feed source.characters
  rw [scan_eq]
  cases fed : Lexer.start.feed source.characters with
  | ok lexer => exact (goesOn lexer fed).finishWith source.readFailure
  | error scan => exact givesUp scan fed

end Mustache
