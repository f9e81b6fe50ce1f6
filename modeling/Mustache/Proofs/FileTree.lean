import Mustache.FileTree
import Mustache.Proofs.Action

/-!
What writing does to a snapshot of files. The walk to a path that succeeds ends at the place that
the path means. Writing a file changes that place and no other. Making the directories for it
changes no file, and puts directories only where nothing was.
-/

namespace Mustache

set_option autoImplicit false

namespace FileTree

theorem get_put (tree : FileTree) (place other : List String) (entry : Entry) :
    (tree.put place entry).get? other = if other = place then some entry else tree.get? other := by
  have kept (entries : List (List String × Entry)) (apart : other ≠ place) :
      (entries.filter (·.1 != place)).lookup other = entries.lookup other := by
    induction entries with
    | nil => rfl
    | cons entry rest induction =>
        obtain ⟨spot, found⟩ := entry
        by_cases here : spot = place
        · subst here
          simp [List.lookup_cons, beq_false_of_ne apart, induction]
        · simp [List.lookup_cons, here, induction]
  unfold put get?
  by_cases same : other = place
  · subst same
    simp
  · rw [if_neg same, List.lookup_cons, beq_false_of_ne same]
    exact kept tree.entries same

section Walking

variable {tree : FileTree} {directory place : List String} {path : Path}

theorem walk_ok {name : String} {parts here : List String}
    (walked : tree.walk name here parts = .ok place) : place = parts.foldl Path.follow here := by
  induction parts generalizing here with
  | nil =>
      cases walked
      rfl
  | cons part rest induction =>
      unfold walk at walked
      split at walked
      · cases walked
      · cases walked
      · split at walked
        · cases walked
        · exact induction walked

theorem locate_ok (located : tree.locate directory path = .ok place) :
    place = path.resolve directory := by
  unfold locate at located
  split at located
  · cases located
  · split at located
    · cases located
    · split at located
      · cases located
      · exact walk_ok located

end Walking

def Roomier (tree made : FileTree) : Prop :=
  ∀ place, made.get? place = tree.get? place ∨
    tree.get? place = none ∧ made.get? place = some .directory

namespace Roomier

variable {tree between made : FileTree}

theorem same (tree : FileTree) : tree.Roomier tree := fun _ => .inl rfl

theorem trans (first : tree.Roomier between) (second : between.Roomier made) :
    tree.Roomier made := by
  intro place
  rcases first place with kept | ⟨absent, added⟩
  · rw [← kept]
    exact second place
  · rcases second place with kept | ⟨none, _⟩
    · exact .inr ⟨absent, kept.trans added⟩
    · rw [added] at none
      cases none

theorem file_iff (roomier : tree.Roomier made) (place : List String) (content : List UInt8) :
    made.get? place = some (.file content) ↔ tree.get? place = some (.file content) := by
  rcases roomier place with kept | ⟨absent, added⟩
  · rw [kept]
  · rw [absent, added]
    simp

end Roomier

def OnlyWritten (tree later : FileTree) (place : List String) (content : List UInt8) : Prop :=
  ∀ other octets, later.get? other = some (.file octets) ↔
    if other = place then octets = content else tree.get? other = some (.file octets)

namespace OnlyWritten

variable {tree made later : FileTree} {place : List String} {content : List UInt8}

theorem of_put (roomier : tree.Roomier made) (place : List String) (content : List UInt8) :
    tree.OnlyWritten (made.put place (.file content)) place content := by
  intro other octets
  rw [get_put]
  split
  · simp [eq_comm]
  · exact roomier.file_iff other octets

/-- One that was written may be taken for another only if neither has changed. -/
theorem elsewhere_iff (written : tree.OnlyWritten later place content) (other : List String) :
    tree.OnlyWritten later other content ↔
      other = place ∨ tree.get? place = some (.file content) ∧
        tree.get? other = some (.file content) := by
  by_cases same : other = place
  · subst same
    exact ⟨fun _ => .inl rfl, fun _ => written⟩
  have holds : later.get? place = some (.file content) :=
    (written place content).mpr (by rw [if_pos rfl])
  constructor
  · intro taken
    have unchanged := (taken place content).mp holds
    rw [if_neg (Ne.symm same)] at unchanged
    have kept := (written other content).mp ((taken other content).mpr (by rw [if_pos rfl]))
    rw [if_neg same] at kept
    exact .inr ⟨unchanged, kept⟩
  · rintro (here | ⟨unchanged, kept⟩)
    · exact absurd here same
    intro spot octets
    rw [written spot octets]
    by_cases first : spot = place
    · subst first
      rw [if_pos rfl, if_neg (Ne.symm same), unchanged]
      simp [eq_comm]
    rw [if_neg first]
    by_cases second : spot = other
    · subst second
      rw [if_pos rfl, kept]
      simp [eq_comm]
    · rw [if_neg second]

end OnlyWritten

section Writing

variable {tree made : FileTree} {directory : List String} {path : Path}

theorem make_directory_roomier (makes : tree.makeDirectory directory path = .ok made) :
    tree.Roomier made := by
  unfold makeDirectory at makes
  cases located : tree.locate directory path with
  | error fault =>
      rw [located] at makes
      cases makes
  | ok place =>
      simp only [located, bind, Except.bind] at makes
      split at makes
      · next absent =>
          cases makes
          intro other
          rw [get_put]
          by_cases here : other = place
          · subst here
            rw [if_pos rfl]
            exact .inr ⟨absent, rfl⟩
          · rw [if_neg here]
            exact .inl rfl
      · cases makes
        exact .same tree
      · cases makes

theorem make_parents_roomier {anchor : Anchor} {parts : List String}
    (makes : tree.makeParents directory anchor parts = .ok made) : tree.Roomier made := by
  induction parts generalizing made with
  | nil => exact make_directory_roomier makes
  | cons part before induction =>
      unfold makeParents at makes
      dsimp only at makes
      split at makes
      · cases around : tree.makeParents directory anchor before with
        | error fault =>
            rw [around] at makes
            cases makes
        | ok between =>
            rw [around] at makes
            exact (induction around).trans (make_directory_roomier makes)
      · exact make_directory_roomier makes

theorem write_text_ok {text : String} (writes : tree.writeText directory path text = .ok made) :
    made = tree.put (path.resolve directory) (.file (Text.encode text)) := by
  unfold writeText at writes
  cases located : tree.locate directory path with
  | error fault =>
      rw [located] at writes
      cases writes
  | ok place =>
      simp only [located, bind, Except.bind] at writes
      rw [← locate_ok located]
      split at writes
      · cases writes
      · split at writes
        · cases writes
          rfl
        · cases writes

end Writing

end FileTree

end Mustache
