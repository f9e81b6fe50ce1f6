import Mathlib.Data.List.Induction
import Mustache.Proofs.Template.Assembly

/-!
How the sections of a source nest. Which tokens nest is said here by a grammar that knows neither of
a stack nor of trees, and so is which token is the first one that does not fit. A stack of opening
tags decides both.
-/

namespace Mustache

set_option autoImplicit false

/-- Neither opens nor closes a section. -/
def Token.isFlat : Token → Bool
  | .tag (.opening _ _) _ | .tag (.closing _) _ => false
  | _ => true

def Token.inclusion? : Token → Option String
  | .tag (.inclusion name) _ => some name
  | _ => none

/-- Every section is closed by a tag of its own name, and before the section around it is. -/
inductive WellNested : List Token → Prop where
  | nothing : WellNested []
  | flat {token : Token} {rest : List Token} (single : token.isFlat = true)
      (after : WellNested rest) : WellNested (token :: rest)
  | block {inverted : Bool} {name : String} {opened closed : Nat} {body rest : List Token}
      (inner : WellNested body) (after : WellNested rest) :
      WellNested (.tag (.opening inverted name) opened ::
        (body ++ .tag (.closing name) closed :: rest))

structure Opener where
  inverted : Bool
  name : String
  line : Nat
  deriving DecidableEq, Repr

def Opener.token (opener : Opener) : Token :=
  .tag (.opening opener.inverted opener.name) opener.line

/-- All is well nested but for these tags, innermost first, whose sections are still open. -/
inductive LeavesOpen : List Token → List Opener → Prop where
  | nothing {tokens : List Token} (nested : WellNested tokens) : LeavesOpen tokens []
  | opened {before body : List Token} {opener : Opener} {around : List Opener}
      (outer : LeavesOpen before around) (inner : WellNested body) :
      LeavesOpen (before ++ opener.token :: body) (opener :: around)

/-- The first place in a source where sections do not nest: a tag that closes what is not open or
not innermost, or else the end, with a section still open. -/
inductive Misnested : List Token → ParseError → Prop where
  | unopened {before after : List Token} {name : String} {line : Nat}
      (nested : WellNested before) :
      Misnested (before ++ .tag (.closing name) line :: after)
        ⟨.closeWithoutOpen name, some line⟩
  | mismatched {before after : List Token} {opener : Opener} {around : List Opener} {name : String}
      {line : Nat} (left : LeavesOpen before (opener :: around)) (other : opener.name ≠ name) :
      Misnested (before ++ .tag (.closing name) line :: after)
        ⟨.closeMismatch name opener.name, some line⟩
  | unclosed {tokens : List Token} {opener : Opener} {around : List Opener}
      (left : LeavesOpen tokens (opener :: around)) :
      Misnested tokens ⟨.neverClosed opener.inverted opener.name, some opener.line⟩

theorem WellNested.append {tokens rest : List Token} (first : WellNested tokens)
    (second : WellNested rest) : WellNested (tokens ++ rest) := by
  induction first with
  | nothing => exact second
  | flat single _ induction => exact .flat single induction
  | block inner _ _ induction =>
      rw [List.cons_append, List.append_assoc, List.cons_append]
      exact .block inner induction

theorem LeavesOpen.append {tokens rest : List Token} {openers : List Opener}
    (left : LeavesOpen tokens openers) (nested : WellNested rest) :
    LeavesOpen (tokens ++ rest) openers := by
  cases left with
  | nothing before => exact .nothing (before.append nested)
  | opened outer inner =>
      rw [List.append_assoc, List.cons_append]
      exact .opened outer (inner.append nested)

/-- Takes one more token, given the sections that are open. -/
def nest (openers : List Opener) : Token → Except ParseError (List Opener)
  | .tag (.opening inverted name) line => .ok (⟨inverted, name, line⟩ :: openers)
  | .tag (.closing name) line =>
      match openers with
      | [] => .error ⟨.closeWithoutOpen name, some line⟩
      | opener :: around =>
          if opener.name = name then .ok around
          else .error ⟨.closeMismatch name opener.name, some line⟩
  | _ => .ok openers

def nestAll : List Opener → List Token → Except ParseError (List Opener) := List.foldlM nest

def nestOut : List Opener → Except ParseError Unit
  | [] => .ok ()
  | opener :: _ => .error ⟨.neverClosed opener.inverted opener.name, some opener.line⟩

theorem nest_flat {token : Token} (single : token.isFlat = true) (openers : List Opener) :
    nest openers token = .ok openers := by
  unfold Token.isFlat at single
  split at single
  · cases single
  · cases single
  · unfold nest
    split
    · simp_all
    · simp_all
    · rfl

theorem nest_all_append (openers : List Opener) (tokens rest : List Token) :
    nestAll openers (tokens ++ rest) = nestAll openers tokens >>= (nestAll · rest) := by
  unfold nestAll
  exact List.foldlM_append

theorem nest_all_snoc (openers : List Opener) (tokens : List Token) (token : Token) :
    nestAll openers (tokens ++ [token]) = nestAll openers tokens >>= (nest · token) := by
  rw [nest_all_append]
  unfold nestAll
  simp

theorem WellNested.nest_all {tokens : List Token} (nested : WellNested tokens)
    (openers : List Opener) (rest : List Token) :
    nestAll openers (tokens ++ rest) = nestAll openers rest := by
  induction nested generalizing openers rest with
  | nothing => rfl
  | flat single _ induction =>
      rw [List.cons_append, nestAll, List.foldlM_cons, nest_flat single]
      exact induction openers rest
  | @block inverted name opened closed body after _ _ inner induction =>
      have closes : nestAll (⟨inverted, name, opened⟩ :: openers)
          (.tag (.closing name) closed :: (after ++ rest)) = nestAll openers (after ++ rest) := by
        rw [nestAll, List.foldlM_cons, nest, if_pos rfl]
        rfl
      calc
        _ = nestAll (⟨inverted, name, opened⟩ :: openers)
              (body ++ .tag (.closing name) closed :: (after ++ rest)) := by
            rw [List.cons_append, List.append_assoc, List.cons_append]
            rfl
        _ = nestAll openers (after ++ rest) := by rw [inner, closes]
        _ = nestAll openers rest := induction openers rest

theorem LeavesOpen.nest_all {tokens : List Token} {openers : List Opener}
    (left : LeavesOpen tokens openers) : nestAll [] tokens = .ok openers := by
  induction left with
  | nothing nested =>
      have whole := nested.nest_all [] []
      rwa [List.append_nil] at whole
  | @opened before body opener around _ inner outer =>
      have opens : nestAll around (opener.token :: body) = nestAll (opener :: around) body := rfl
      have whole := inner.nest_all (opener :: around) []
      rw [List.append_nil] at whole
      rw [nest_all_append, outer]
      exact opens.trans whole

/-- A token that is taken keeps account of what is open. -/
theorem LeavesOpen.nest {tokens : List Token} {openers next : List Opener} {token : Token}
    (left : LeavesOpen tokens openers) (taken : Mustache.nest openers token = .ok next) :
    LeavesOpen (tokens ++ [token]) next := by
  by_cases single : token.isFlat = true
  · rw [nest_flat single] at taken
    cases taken
    exact left.append (.flat single .nothing)
  · unfold Token.isFlat at single
    split at single
    · next inverted name line =>
        cases taken
        have opened : LeavesOpen (tokens ++ [Opener.token ⟨inverted, name, line⟩])
            (⟨inverted, name, line⟩ :: openers) := .opened left .nothing
        exact opened
    · cases left with
      | nothing _ => cases taken
      | @opened before body opener around outer inner =>
          unfold Mustache.nest at taken
          dsimp only at taken
          split at taken
          · next same =>
              cases taken
              subst same
              rw [List.append_assoc, List.cons_append]
              exact outer.append (.block inner .nothing)
          · cases taken
    · exact (single rfl).elim

theorem leaves_open_iff {tokens : List Token} {openers : List Opener} :
    LeavesOpen tokens openers ↔ nestAll [] tokens = .ok openers := by
  constructor
  · exact LeavesOpen.nest_all
  · intro taken
    induction tokens using List.reverseRecOn generalizing openers with
    | nil =>
        cases taken
        exact .nothing .nothing
    | append_singleton tokens token induction =>
        rw [nest_all_snoc] at taken
        cases before : nestAll [] tokens with
        | error error =>
            rw [before] at taken
            cases taken
        | ok middle =>
            rw [before] at taken
            exact (induction before).nest taken

theorem well_nested_iff {tokens : List Token} :
    WellNested tokens ↔ nestAll [] tokens = .ok [] := by
  rw [← leaves_open_iff]
  constructor
  · exact .nothing
  · rintro ⟨nested⟩
    exact nested

/-- Where tokens cease to nest, a token was refused that came right behind others that fit. -/
theorem nest_all_refused {openers : List Opener} {tokens : List Token} {error : ParseError}
    (refused : nestAll openers tokens = .error error) :
    ∃ before token after middle, tokens = before ++ token :: after ∧
      nestAll openers before = .ok middle ∧ nest middle token = .error error := by
  induction tokens generalizing openers with
  | nil => cases refused
  | cons token tokens induction =>
      rw [nestAll, List.foldlM_cons] at refused
      cases taken : nest openers token with
      | error other =>
          rw [taken] at refused
          cases refused
          exact ⟨[], token, tokens, openers, rfl, rfl, taken⟩
      | ok next =>
          rw [taken] at refused
          obtain ⟨before, last, after, middle, rfl, fits, fails⟩ := induction refused
          refine ⟨token :: before, last, after, middle, rfl, ?_, fails⟩
          rw [nestAll, List.foldlM_cons, taken]
          exact fits

theorem nest_all_at {before after : List Token} {openers : List Opener} {token : Token}
    {error : ParseError} (left : LeavesOpen before openers)
    (refused : nest openers token = .error error) :
    nestAll [] (before ++ token :: after) = .error error := by
  rw [nest_all_append, left.nest_all]
  change nestAll openers (token :: after) = _
  rw [nestAll, List.foldlM_cons, refused]
  rfl

/-- The stack finds the first place where tokens do not nest. -/
theorem misnested_iff {tokens : List Token} {error : ParseError} :
    Misnested tokens error ↔ nestAll [] tokens >>= nestOut = .error error := by
  constructor
  · intro misnested
    cases misnested with
    | unopened nested =>
        rw [nest_all_at (.nothing nested) rfl]
        rfl
    | @mismatched before after opener around name line left other =>
        have refused : nest (opener :: around) (.tag (.closing name) line) =
            .error ⟨.closeMismatch name opener.name, some line⟩ := if_neg other
        rw [nest_all_at left refused]
        rfl
    | unclosed left =>
        rw [left.nest_all]
        rfl
  · intro fails
    cases taken : nestAll [] tokens with
    | ok openers =>
        rw [taken] at fails
        cases openers with
        | nil => cases fails
        | cons opener around =>
            cases fails
            exact .unclosed (leaves_open_iff.mpr taken)
    | error other =>
        rw [taken] at fails
        cases fails
        obtain ⟨before, token, after, middle, rfl, fits, refused⟩ := nest_all_refused taken
        have left := leaves_open_iff.mpr fits
        unfold nest at refused
        split at refused
        · cases refused
        · split at refused
          · cases refused
            cases left with
            | nothing nested => exact .unopened nested
          · split at refused
            · cases refused
            · next other =>
                cases refused
                exact .mismatched left other
        · cases refused

theorem well_nested_iff_out {tokens : List Token} :
    WellNested tokens ↔ nestAll [] tokens >>= nestOut = .ok () := by
  rw [well_nested_iff]
  cases taken : nestAll [] tokens with
  | error error => exact ⟨nofun, nofun⟩
  | ok openers =>
      cases openers with
      | nil => exact ⟨fun _ => rfl, fun _ => rfl⟩
      | cons opener around => exact ⟨nofun, nofun⟩

end Mustache
