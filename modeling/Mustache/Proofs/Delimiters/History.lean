import Mustache.Proofs.Action
import Mustache.Proofs.Delimiters

/-!
Markers that are told one directive after the other. A directive is accepted if it splits into two
words of one or two characters each, and then the markers are these words, whatever they were
before. Any other directive is refused, and the markers stay. So no marker ever comes to be empty or
longer than two characters, none has a blank in it, and the two with a space between them are a
directive that leads back to them from everywhere.
-/

namespace Mustache.Delimiters

set_option autoImplicit false

def direct (directive : String) (line : Option Int) :
    ExceptT ParseError (StateM Delimiters) Unit := do
  let delimiters ← get
  set (← delimiters.update directive line)

def afterAll (delimiters : Delimiters) (directives : List (String × Option Int)) : Delimiters :=
  directives.foldl (fun markers told => ((direct told.1 told.2).run markers).2) delimiters

/-- A directive that splits into these two words, each of a length that a marker can have. -/
def Names (directive : String) (opening closing : List Char) : Prop :=
  Text.SplitsInto directive.toList [opening, closing] ∧
    ∀ word ∈ [opening, closing], 1 ≤ word.length ∧ word.length ≤ 2

def spaced (delimiters : Delimiters) : String :=
  String.ofList (delimiters.opening.chars ++ ' ' :: delimiters.closing.chars)

theorem marker_of_length {word : List Char} (proper : 1 ≤ word.length) (short : word.length ≤ 2) :
    ∃ marker : Marker, marker.chars = word := by
  match word with
  | [first] => exact ⟨⟨first, none⟩, rfl⟩
  | [first, second] => exact ⟨⟨first, some second⟩, rfl⟩
  | _ :: _ :: _ :: _ =>
      simp only [List.length_cons] at short
      omega

theorem length_of_marker (marker : Marker) :
    1 ≤ marker.chars.length ∧ marker.chars.length ≤ 2 := by
  rcases marker with ⟨first, _ | second⟩ <;> simp [Marker.chars]

/-- What a directive names is what it is accepted as. -/
theorem names_iff {directive : String} {opening closing : List Char} :
    Names directive opening closing ↔
      ∃ next, ofDirective? directive.toList = some next ∧
        next.opening.chars = opening ∧ next.closing.chars = closing := by
  simp only [of_directive_iff, Names, Text.splits_into_iff]
  constructor
  · rintro ⟨words, fits⟩
    obtain ⟨⟨proper, short⟩, last⟩ := List.forall_mem_cons.mp fits
    obtain ⟨proper', short'⟩ := List.forall_mem_singleton.mp last
    obtain ⟨opening, rfl⟩ := marker_of_length proper short
    obtain ⟨closing, rfl⟩ := marker_of_length proper' short'
    exact ⟨⟨opening, closing⟩, words, rfl, rfl⟩
  · rintro ⟨next, words, rfl, rfl⟩
    refine ⟨words, List.forall_mem_cons.mpr ⟨length_of_marker _, ?_⟩⟩
    exact List.forall_mem_singleton.mpr (length_of_marker _)

section Runs

variable {delimiters next : Delimiters} {directive : String} {line : Option Int}

theorem direct_accepted (accepted : ofDirective? directive.toList = some next) :
    (direct directive line).run delimiters = (.ok (), next) := by
  unfold direct update
  rw [accepted]
  rfl

theorem direct_refused (refused : ofDirective? directive.toList = none) :
    (direct directive line).run delimiters =
      (.error ⟨.badDirective directive, line⟩, delimiters) := by
  unfold direct update
  rw [refused]
  rfl

theorem direct_visible (visible : delimiters.Visible) :
    ((direct directive line).run delimiters).2.Visible := by
  cases read : ofDirective? directive.toList with
  | none => rwa [direct_refused read]
  | some next =>
      rw [direct_accepted read]
      exact of_directive_visible read

theorem after_all_visible (directives : List (String × Option Int))
    (visible : delimiters.Visible) : (delimiters.afterAll directives).Visible := by
  induction directives generalizing delimiters with
  | nil => exact visible
  | cons told directives induction => exact induction (direct_visible visible)

/-- As a directive, markers without blanks are read as they are. -/
theorem Visible.read_spaced (visible : delimiters.Visible) :
    ofDirective? delimiters.spaced.toList = some delimiters := by
  obtain ⟨opening, closing⟩ := List.forall_mem_append.mp visible
  have nothing : ∀ c ∈ ([] : List Char).head?, Text.isBlank c = true := nofun
  have blank : ∀ c ∈ (' ' :: delimiters.closing.chars).head?, Text.isBlank c = true := by
    rintro _ ⟨⟩
    decide
  have last : Text.SplitsInto delimiters.closing.chars [delimiters.closing.chars] := by
    have splits := Text.SplitsInto.word (List.forall_mem_nil _) delimiters.closing.chars_ne_nil
      closing nothing (.blanks (List.forall_mem_nil _))
    rwa [List.append_nil] at splits
  have whole := Text.SplitsInto.word (List.forall_mem_nil _) delimiters.opening.chars_ne_nil opening
    blank (last.behind_blank (by decide))
  rw [of_directive_iff, spaced, String.toList_ofList]
  exact whole.words_eq

end Runs

/-- Whatever the markers have been told, they are of one or two characters that are not blank. A
directive is accepted just if it names two markers, and then it makes these of any markers; if it is
refused, the fault carries the line and the markers are as before. What the markers are in the end
can be told to any others. -/
theorem markers_follow_directives (directives : List (String × Option Int)) :
    let reached : Delimiters := standard.afterAll directives
    (Text.isBlank reached.opening.first = false ∧
      (∀ c ∈ reached.opening.second, Text.isBlank c = false) ∧
      Text.isBlank reached.closing.first = false ∧
      ∀ c ∈ reached.closing.second, Text.isBlank c = false) ∧
    (∀ (markers : Delimiters) (directive : String) (line : Option Int),
      ((∃ next, (direct directive line).run markers = (.ok (), next)) ↔
        ∃ opening closing, Names directive opening closing) ∧
      (∀ opening closing, Names directive opening closing →
        ∃ next, (direct directive line).run markers = (.ok (), next) ∧
          next.opening.chars = opening ∧ next.closing.chars = closing) ∧
      ((¬ ∃ opening closing, Names directive opening closing) →
        (direct directive line).run markers =
          (.error ⟨.badDirective directive, line⟩, markers))) ∧
    ∀ (markers : Delimiters) (line : Option Int),
      (direct reached.spaced line).run markers = (.ok (), reached) := by
  intro reached
  have visible : reached.Visible := after_all_visible directives standard_visible
  refine ⟨⟨?_, ?_, ?_, ?_⟩, fun markers directive line => ?_, fun markers line => ?_⟩
  · exact visible _ (by simp [Marker.chars])
  · exact fun c second => visible c (by simp [Marker.chars, Option.mem_def.mp second])
  · exact visible _ (by simp [Marker.chars])
  · exact fun c second => visible c (by simp [Marker.chars, Option.mem_def.mp second])
  · have accepts : ∀ opening closing, Names directive opening closing →
        ∃ next, (direct directive line).run markers = (.ok (), next) ∧
          next.opening.chars = opening ∧ next.closing.chars = closing := by
      intro opening closing names
      obtain ⟨next, read, same⟩ := names_iff.mp names
      exact ⟨next, direct_accepted read, same⟩
    have refuses : (¬ ∃ opening closing, Names directive opening closing) →
        (direct directive line).run markers =
          (.error ⟨.badDirective directive, line⟩, markers) := by
      intro nameless
      cases read : ofDirective? directive.toList with
      | none => exact direct_refused read
      | some next => exact (nameless ⟨_, _, names_iff.mpr ⟨next, read, rfl, rfl⟩⟩).elim
    refine ⟨⟨?_, ?_⟩, accepts, refuses⟩
    · rintro ⟨next, accepted⟩
      by_contra nameless
      rw [refuses nameless] at accepted
      cases accepted
    · rintro ⟨opening, closing, names⟩
      obtain ⟨next, accepted, _⟩ := accepts opening closing names
      exact ⟨next, accepted⟩
  · exact direct_accepted visible.read_spaced

/-- What is refused in between makes no difference. -/
example : standard.afterAll [("<% %>", some 1), ("too long", some 2), ("", none)] =
    ⟨⟨'<', some '%'⟩, ⟨'%', some '>'⟩⟩ := by decide

end Mustache.Delimiters
