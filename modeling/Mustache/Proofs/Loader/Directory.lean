import Mustache.Loader.Directory
import Mustache.Proofs.Path

/-!
Partials from a directory stay inside of it. What a name stands for is decided by the name alone,
and of the files nothing outside of the root has a part in the answer. That takes two file trees
that differ only there.
-/

namespace Mustache

set_option autoImplicit false

namespace FileTree

def Proper (tree : FileTree) : Prop :=
  ∀ place part, (tree.get? (place ++ [part])).isSome → tree.get? place = some .directory

def AgreeBelow (root : List String) (tree other : FileTree) : Prop :=
  ∀ place, root <+: place → tree.get? place = other.get? place

theorem proper_of_entries {tree : FileTree}
    (contained : ∀ entry ∈ tree.entries,
      entry.1 = [] ∨ tree.get? entry.1.dropLast = some .directory) : tree.Proper := by
  intro place part there
  obtain ⟨entry, member, found⟩ := List.lookup_isSome_iff.mp there
  have same : place ++ [part] = entry.1 := eq_of_beq found
  rcases contained entry member with top | inDirectory
  · rw [top] at same
    simp at same
  · rwa [← same, List.dropLast_concat] at inDirectory

theorem agree_of_entries {root : List String} {tree other : FileTree}
    (same : tree.entries.filter (fun entry => Path.within entry.1 root) =
      other.entries.filter (fun entry => Path.within entry.1 root)) :
    AgreeBelow root tree other := by
  intro place inside
  have kept (entries : List (List String × Entry)) :
      entries.lookup place =
        (entries.filter (fun entry => Path.within entry.1 root)).lookup place := by
    induction entries with
    | nil => rfl
    | cons entry rest induction =>
        obtain ⟨spot, found⟩ := entry
        by_cases hit : place = spot
        · subst hit
          have within : Path.within place root = true := List.isPrefixOf_iff_prefix.mpr inside
          simp [within]
        · have apart : (place == spot) = false := by simpa using hit
          cases within : Path.within spot root <;> simp [List.lookup_cons, apart, within, induction]
  unfold get?
  rw [kept tree.entries, kept other.entries, same]

theorem Proper.around {tree : FileTree} (proper : tree.Proper) {place : List String} {part : String}
    {rest : List String} (there : (tree.get? (place ++ part :: rest)).isSome) :
    tree.get? place = some .directory := by
  induction rest generalizing place part with
  | nil => exact proper place part there
  | cons next rest induction =>
      have deeper : tree.get? (place ++ [part]) = some .directory := by
        apply induction
        rwa [List.append_assoc]
      exact proper place part (by rw [deeper]; rfl)

/-- The walk breaks off at a name that is too long for a file. -/
def Overlong (result : Except FileFault (List String)) : Prop :=
  ∃ path, result = .error (.nameTooLong path)

section Walk

variable {tree other : FileTree} {path : String}

theorem follow_plain {part : String} (plain : part ≠ Path.parentMark) (here : List String) :
    Path.follow here part = here ++ [part] := if_neg plain

/-- Inside of the root both trees are walked alike. -/
theorem walk_inside {root : List String} (agree : AgreeBelow root tree other)
    (rest here : List String) (inside : root <+: here) (plain : Path.parentMark ∉ rest) :
    tree.walk path here rest = other.walk path here rest := by
  induction rest generalizing here with
  | nil => rfl
  | cons part rest induction =>
      have further : root <+: Path.follow here part := by
        rw [follow_plain (List.ne_of_not_mem_cons plain).symm]
        exact inside.trans (List.prefix_append here [part])
      unfold walk
      rw [agree here inside, induction _ further (List.not_mem_of_not_mem_cons plain)]

/-- On the way to a root that is there both trees have directories only. -/
theorem walk_to_root {root : List String} (proper : tree.Proper) (proper' : other.Proper)
    (agree : AgreeBelow root tree other) (there : (tree.get? root).isSome) (rest : List String)
    (plain : Path.parentMark ∉ rest) (above here : List String) (way : here ++ above = root)
    (plainWay : Path.parentMark ∉ above) :
    tree.walk path here (above ++ rest) = other.walk path here (above ++ rest) := by
  induction above generalizing here with
  | nil =>
      rw [List.append_nil] at way
      exact walk_inside agree rest here (way ▸ List.prefix_rfl) plain
  | cons part above induction =>
      have first : tree.get? here = some .directory := proper.around (way ▸ there)
      have there' : (other.get? root).isSome := by
        rwa [← agree root List.prefix_rfl]
      have second : other.get? here = some .directory := proper'.around (way ▸ there')
      have step := follow_plain (List.ne_of_not_mem_cons plainWay).symm here
      have onward := induction (here ++ [part]) (by rw [List.append_assoc]; exact way)
        (List.not_mem_of_not_mem_cons plainWay)
      rw [List.cons_append]
      unfold walk
      rw [first, second, step, onward]

/-- A walk to a root that is not there breaks off, but not at a name that is too long. -/
theorem walk_nowhere {root : List String} (absent : tree.get? root = none)
    (fits : ∀ part ∈ root, Text.nameSize part ≤ nameLimit) (rest above here : List String)
    (way : here ++ above = root) (plainWay : Path.parentMark ∉ above) :
    ¬ Overlong (tree.walk path here (above ++ rest)) := by
  induction above generalizing here with
  | nil =>
      rw [List.append_nil] at way
      subst way
      cases rest with
      | nil => rintro ⟨_, broken⟩; cases broken
      | cons part rest =>
          rintro ⟨_, broken⟩
          rw [List.nil_append, walk, absent] at broken
          cases broken
  | cons part above induction =>
      have short : ¬ Text.nameSize part > nameLimit :=
        Nat.not_lt.mpr (fits part (by rw [← way]; simp))
      have step := follow_plain (List.ne_of_not_mem_cons plainWay).symm here
      have onward := induction (here ++ [part]) (by rw [List.append_assoc]; exact way)
        (List.not_mem_of_not_mem_cons plainWay)
      rw [List.cons_append]
      unfold walk
      cases tree.get? here with
      | none => rintro ⟨_, broken⟩; cases broken
      | some entry =>
          cases entry with
          | file content => rintro ⟨_, broken⟩; cases broken
          | directory =>
              dsimp only
              rw [if_neg short, step]
              exact onward

/-- Whether a name is too long does not depend on what is outside of the root. A root that is not
there must have a name that could be there. -/
theorem overlong_iff {root : List String} (proper : tree.Proper) (proper' : other.Proper)
    (agree : AgreeBelow root tree other)
    (fits : (∀ part ∈ root, Text.nameSize part ≤ nameLimit) ∨ (tree.get? root).isSome)
    {place : List String} (inside : root <+: place) (plain : Path.parentMark ∉ place) :
    Overlong (tree.locate [] (.ofPlace place)) ↔ Overlong (other.locate [] (.ofPlace place)) := by
  obtain ⟨rest, rfl⟩ := inside
  have plainRoot : Path.parentMark ∉ root := fun member => plain (List.mem_append_left _ member)
  have plainRest : Path.parentMark ∉ rest := fun member => plain (List.mem_append_right _ member)
  have top : (if (Path.ofPlace (root ++ rest)).absolute then [] else []) = ([] : List String) := rfl
  unfold locate
  split
  · rfl
  · split
    · rfl
    · split
      · rfl
      · rw [top]
        cases there : tree.get? root with
        | some entry =>
            exact iff_of_eq (congrArg Overlong (walk_to_root proper proper' agree
              (by rw [there]; rfl) rest plainRest root [] rfl plainRoot))
        | none =>
            have short : ∀ part ∈ root, Text.nameSize part ≤ nameLimit := by
              rcases fits with short | present
              · exact short
              · rw [there] at present
                cases present
            have absent : other.get? root = none := by
              rw [← agree root List.prefix_rfl]
              exact there
            exact iff_of_false (walk_nowhere there short rest root [] rfl plainRoot)
              (walk_nowhere absent short rest root [] rfl plainRoot)

end Walk

end FileTree

namespace PartialsDirectory

variable {partials : PartialsDirectory} {tree : FileTree} {name : String} {place : List String}

theorem open_ok_iff {directory : List String} {root suffix : String} :
    open? directory root suffix = .ok partials ↔
      Text.IsName root.toList ∧ partials = ⟨(Path.read root).resolve directory, suffix⟩ := by
  have opened : open? directory root suffix =
      ((Path.read root).resolve? root directory).map (⟨·, suffix⟩) := by
    unfold open?
    cases (Path.read root).resolve? root directory <;> rfl
  have resolved := @Path.resolve_ok_iff root root directory
  rw [opened]
  cases found : (Path.read root).resolve? root directory with
  | error fault =>
      rw [found] at resolved
      refine ⟨nofun, fun ⟨named, _⟩ => ?_⟩
      exact nomatch resolved.mpr ⟨named, rfl⟩
  | ok place =>
      obtain ⟨named, rfl⟩ := resolved.mp found
      constructor
      · rintro ⟨⟩
        exact ⟨named, rfl⟩
      · rintro ⟨_, rfl⟩
        rfl

theorem open_plain {current root suffix : String}
    (opened : open? ((Path.read current).resolve []) root suffix = .ok partials) :
    Path.parentMark ∉ partials.root := by
  obtain ⟨_, rfl⟩ := open_ok_iff.mp opened
  exact Path.resolve_plain (Path.resolve_plain List.not_mem_nil _) _

theorem serve_outside (placed : partials.place? name = .ok place)
    (outside : ¬ partials.root <+: place) :
    partials.serve tree name =
      ⟨[], .error (.load (.outsideRoot (placeText partials.root) name) (some name))⟩ := by
  have refused : Path.within place partials.root = false :=
    Bool.eq_false_iff.mpr (mt List.isPrefixOf_iff_prefix.mp outside)
  unfold serve
  rw [placed]
  simp [refused]

/-- The answer for a name inside of the root, whose place need not be walked to otherwise. -/
theorem serve_inside (placed : partials.place? name = .ok place)
    (inside : partials.root <+: place) :
    (FileTree.Overlong (tree.locate [] (.ofPlace place)) →
      partials.serve tree name = ⟨[], .error (.file (.nameTooLong (placeText place)))⟩) ∧
    (¬ FileTree.Overlong (tree.locate [] (.ofPlace place)) →
      partials.serve tree name =
        match tree.get? place with
        | some (.file content) =>
            match FileTree.textOfOctets content with
            | .ok text =>
                ⟨["Loaded partial " ++ name ++ " from " ++ placeText place], .ok (.text text)⟩
            | .error fault => ⟨[], .error fault⟩
        | _ => ⟨["Partial file not found: " ++ placeText place],
            .error (.load (.noFile (placeText place)) (some name))⟩) := by
  have accepted : Path.within place partials.root = true :=
    List.isPrefixOf_iff_prefix.mpr inside
  unfold serve
  rw [placed]
  simp only [accepted, Bool.not_true, Bool.false_eq_true, if_false]
  constructor
  · rintro ⟨path, broken⟩
    rw [broken]
  · intro fine
    split
    · next path broken => exact (fine ⟨path, broken⟩).elim
    · rfl

theorem serve_ok {source : Source} (placed : partials.place? name = .ok place)
    (served : (partials.serve tree name).result = .ok source) :
    partials.root <+: place ∧ ∃ content text, tree.get? place = some (.file content) ∧
      FileTree.textOfOctets content = .ok text ∧ source = .text text := by
  by_cases inside : partials.root <+: place
  · refine ⟨inside, ?_⟩
    by_cases broken : FileTree.Overlong (tree.locate [] (.ofPlace place))
    · rw [(serve_inside placed inside).1 broken] at served
      cases served
    · rw [(serve_inside placed inside).2 broken] at served
      split at served
      · next content found =>
          split at served
          · next text decoded =>
              cases served
              exact ⟨content, text, found, decoded, rfl⟩
          · cases served
      · cases served
  · rw [serve_outside placed inside] at served
    cases served

theorem place_ok_iff : partials.place? name = .ok place ↔
    Text.IsName (name ++ partials.suffix).toList ∧
      place = (Path.read (name ++ partials.suffix)).resolve partials.root := Path.resolve_ok_iff

theorem serve_unplaced (unnamed : ¬ Text.IsName (name ++ partials.suffix).toList) :
    ∃ fault, ∀ tree, partials.serve tree name = ⟨[], .error (.file fault)⟩ := by
  obtain ⟨fault, refused⟩ := Path.resolve_error name partials.root unnamed
  refine ⟨fault, fun tree => ?_⟩
  have unplaced : partials.place? name = .error (.file fault) := refused
  unfold serve
  rw [unplaced]

/-- The answer is the same in trees that differ outside of the root only. -/
theorem serve_agree {other : FileTree} (proper : tree.Proper) (proper' : other.Proper)
    (agree : FileTree.AgreeBelow partials.root tree other)
    (fits : (∀ part ∈ partials.root, Text.nameSize part ≤ FileTree.nameLimit) ∨
      (tree.get? partials.root).isSome)
    (plain : Path.parentMark ∉ partials.root) (name : String) :
    partials.serve tree name = partials.serve other name := by
  cases placed : partials.place? name with
  | error fault =>
      unfold serve
      rw [placed]
  | ok place =>
      have plainPlace : Path.parentMark ∉ place := by
        rw [(place_ok_iff.mp placed).2]
        exact Path.resolve_plain plain _
      by_cases inside : partials.root <+: place
      · have same := FileTree.overlong_iff proper proper' agree fits inside plainPlace
        by_cases broken : FileTree.Overlong (tree.locate [] (.ofPlace place))
        · rw [(serve_inside placed inside).1 broken,
            (serve_inside placed inside).1 (same.mp broken)]
        · rw [(serve_inside placed inside).2 broken,
            (serve_inside placed inside).2 (mt same.mpr broken), agree _ inside]
      · rw [serve_outside placed inside, serve_outside placed inside]

end PartialsDirectory

/-- Names of partials are resolved as they are written, and only files inside of the root are
served; no other file has a part in any answer. -/
theorem partials_stay_inside {current root suffix : String} {partials : PartialsDirectory}
    (opened : PartialsDirectory.open? ((Path.read current).resolve []) root suffix =
      .ok partials) :
    (∃ here, Path.Means [] current here ∧ Path.Means here root partials.root) ∧
    (∀ name, Text.IsName (name ++ suffix).toList →
      ∃ place, partials.place? name = .ok place ∧
        Path.Means partials.root (name ++ suffix) place ∧
        ∀ tree, (∀ source, (partials.serve tree name).result = .ok source →
            partials.root <+: place ∧ ∃ content text, tree.get? place = some (.file content) ∧
              FileTree.textOfOctets content = .ok text ∧ source = .text text) ∧
          (¬ partials.root <+: place → partials.serve tree name =
            ⟨[], .error (.load (.outsideRoot (placeText partials.root) name) (some name))⟩)) ∧
    (∀ name, ¬ Text.IsName (name ++ suffix).toList →
      ∃ fault, ∀ tree, partials.serve tree name = ⟨[], .error (.file fault)⟩) ∧
    ∀ tree other : FileTree, tree.Proper → other.Proper →
      FileTree.AgreeBelow partials.root tree other →
      ((∀ part ∈ partials.root, Text.nameSize part ≤ FileTree.nameLimit) ∨
        (tree.get? partials.root).isSome) →
      ∀ name, partials.serve tree name = partials.serve other name := by
  have plain := PartialsDirectory.open_plain opened
  obtain ⟨_, made⟩ := PartialsDirectory.open_ok_iff.mp opened
  have rooted : partials.root = (Path.read root).resolve ((Path.read current).resolve []) :=
    congrArg PartialsDirectory.root made
  obtain rfl : partials.suffix = suffix := congrArg PartialsDirectory.suffix made
  clear made opened
  refine ⟨⟨_, Path.resolve_means _ _, rooted ▸ Path.resolve_means _ _⟩, ?_, ?_, ?_⟩
  · intro name named
    have placed := PartialsDirectory.place_ok_iff.mpr ⟨named, rfl⟩
    exact ⟨_, placed, Path.resolve_means _ _, fun tree =>
      ⟨fun source served => PartialsDirectory.serve_ok placed served,
        fun outside => PartialsDirectory.serve_outside placed outside⟩⟩
  · intro name unnamed
    exact PartialsDirectory.serve_unplaced unnamed
  · intro tree other proper proper' agree fits name
    exact PartialsDirectory.serve_agree proper proper' agree fits plain name

/-- A suffix that leads upwards may lead back into the root. What else the directories above hold is
of no account. -/
theorem suffix_leading_upwards_stays_inside : ∃ partials,
    PartialsDirectory.open? ((Path.read "/srv").resolve []) "../srv/./x" "/../../x/y" =
      .ok partials ∧
    let tree : FileTree :=
      ⟨[(["srv", "x", "y"], .file [104, 105]), (["srv", "x"], .directory), (["srv"], .directory),
        ([], .directory)]⟩
    let other : FileTree :=
      ⟨[(["srv", "x", "y"], .file [104, 105]), (["srv", "x"], .directory), (["srv"], .directory),
        (["x", "y"], .file [110, 111]), (["x"], .directory), ([], .directory)]⟩
    Path.Means partials.root "a/../../x/y" ["srv", "x", "y"] ∧
      partials.serve tree "b/../.." =
        ⟨[], .error (.load (.outsideRoot "/srv/x" "b/../..") (some "b/../.."))⟩ ∧
      (∃ fault, partials.serve tree "\x00" = ⟨[], .error (.file fault)⟩) ∧
      ∀ name, partials.serve tree name = partials.serve other name := by
  have opened : PartialsDirectory.open? ((Path.read "/srv").resolve []) "../srv/./x"
      "/../../x/y" = .ok ⟨["srv", "x"], "/../../x/y"⟩ := by decide +kernel
  obtain ⟨_, named, unnamed, alike⟩ := partials_stay_inside opened
  have fine {text : String} (sound : Path.partFault? "" text = none) : Text.IsName text.toList :=
    (Path.part_fault_none_iff "" text).mp sound
  refine ⟨_, opened, ?_, ?_, ?_, alike _ _ (FileTree.proper_of_entries (by decide +kernel))
    (FileTree.proper_of_entries (by decide +kernel))
    (FileTree.agree_of_entries (by decide +kernel)) (.inr (by decide +kernel))⟩
  · obtain ⟨place, placed, means, -⟩ := named "a" (fine (by decide +kernel))
    obtain ⟨-, here⟩ := PartialsDirectory.place_ok_iff.mp placed
    have whole : "a" ++ "/../../x/y" = "a/../../x/y" := by decide +kernel
    rw [here, whole] at means
    exact means
  · obtain ⟨place, placed, -, served⟩ := named "b/../.." (fine (by decide +kernel))
    obtain ⟨-, there⟩ := PartialsDirectory.place_ok_iff.mp placed
    have outside : ¬ ["srv", "x"] <+: place := by
      rw [there]
      decide +kernel
    exact (served _).2 outside
  · obtain ⟨fault, refused⟩ := unnamed "\x00" fun name => name.2 (by decide +kernel)
    exact ⟨fault, refused _⟩

def longName (size : Nat) : String := String.ofList (List.replicate size 'x')

theorem long_name_ne {size : Nat} {short : String} (differ : short.length ≠ size) :
    longName size ≠ short := by
  rintro rfl
  exact differ (by rw [longName, String.length_ofList, List.length_replicate])

theorem long_name_named (size : Nat) : Text.IsName (longName size).toList := by
  have known : Text.surrogate? 'x' = none := by decide
  rw [longName, String.toList_ofList]
  constructor
  · intro c there unit lone
    rw [List.eq_of_mem_replicate there, known] at lone
    cases lone
  · intro there
    exact absurd (List.eq_of_mem_replicate there) (by decide)

theorem long_name_opened {size : Nat} (long : 2 < size) (suffix : String) :
    PartialsDirectory.open? ((Path.read "/").resolve []) ("d/" ++ longName size) suffix =
      .ok ⟨["d", longName size], suffix⟩ := by
  have alone : Text.pieces (· = '/') (List.replicate size 'x') = [List.replicate size 'x'] :=
    Text.pieces_unmarked fun member => absurd (List.eq_of_mem_replicate member) (by decide)
  have nonempty : longName size ≠ "" := long_name_ne (by rw [String.length_empty]; omega)
  have dot : ".".length = 1 := by decide +kernel
  have onlyDot : longName size ≠ "." := long_name_ne (by omega)
  have dots : Path.parentMark.length = 2 := by decide +kernel
  have upwards : longName size ≠ Path.parentMark := long_name_ne (by omega)
  have top : (Path.read "/").resolve [] = [] := by decide +kernel
  have read : Path.read ("d/" ++ longName size) = ⟨.current, ["d", longName size]⟩ := by
    unfold longName at *
    simp [Path.read, Path.anchorOf, Text.pieces, alone, nonempty, onlyDot]
  have down : "d" ≠ Path.parentMark := by decide +kernel
  refine PartialsDirectory.open_ok_iff.mpr ⟨?_, ?_⟩
  · have whole : ("d/" ++ longName size).toList = 'd' :: '/' :: (longName size).toList := by simp
    have known : Text.surrogate? 'd' = none ∧ Text.surrogate? '/' = none := by decide
    obtain ⟨octets, clean⟩ := long_name_named size
    rw [whole]
    constructor
    · simpa [known] using octets
    · simpa using clean
  · rw [top, read]
    simp [Path.resolve, Path.absolute, Path.follow, upwards, down]

/-- What a root with a name that is too long has around it decides where looking for it ends: at a
directory that is missing, or at the long name in one that is there. -/
theorem overlong_root_differs {part : String} (named : Text.IsName part.toList)
    (fits : Text.nameSize (Path.ofPlace ["d", part, "a.mustache"]).text ≤ FileTree.pathLimit)
    (overlong : Text.nameSize part > FileTree.nameLimit) :
    let partials : PartialsDirectory := ⟨["d", part], ".mustache"⟩
    let other : FileTree := ⟨[(["d"], .directory), ([], .directory)]⟩
    (partials.serve .empty "a").result ≠ (partials.serve other "a").result := by
  intro partials other
  have placed : partials.place? "a" = .ok ["d", part, "a.mustache"] := by
    have read : Path.read ("a" ++ ".mustache") = ⟨.current, ["a.mustache"]⟩ := by decide +kernel
    have fine : Path.partFault? "" ("a" ++ ".mustache") = none := by decide +kernel
    exact PartialsDirectory.place_ok_iff.mpr ⟨(Path.part_fault_none_iff "" _).mp fine,
      (congrArg (Path.resolve ["d", part]) read).symm⟩
  have inside : ["d", part] <+: ["d", part, "a.mustache"] :=
    List.prefix_append ["d", part] ["a.mustache"]
  have known : ["d", part, "a.mustache"].any
      (fun part => (Text.nameOctets? part.toList).isNone) = false := by
    have octets := (Text.name_octets_some_iff part.toList).mpr named.1
    have others : (Text.nameOctets? "d".toList).isSome = true ∧
        (Text.nameOctets? "a.mustache".toList).isSome = true := by decide +kernel
    simp only [List.any_cons, List.any_nil, ← Option.not_isSome, octets,
      others.1, others.2]
    rfl
  have clean : ["d", part, "a.mustache"].any (·.toList.contains '\x00') = false := by
    have others : "d".toList.contains '\x00' = false ∧
        "a.mustache".toList.contains '\x00' = false := by decide +kernel
    have own : part.toList.contains '\x00' = false := by simpa using named.2
    simp only [List.any_cons, List.any_nil, own, others.1, others.2]
    rfl
  have walked (tree : FileTree) : tree.locate [] (.ofPlace ["d", part, "a.mustache"]) =
      tree.walk (Path.ofPlace ["d", part, "a.mustache"]).text [] ["d", part, "a.mustache"] := by
    unfold FileTree.locate
    rw [if_neg (Bool.not_eq_true _ ▸ known), if_neg (Bool.not_eq_true _ ▸ clean),
      if_neg (Nat.not_lt.mpr fits)]
    rfl
  have unseen : ¬ FileTree.Overlong
      (FileTree.empty.locate [] (.ofPlace ["d", part, "a.mustache"])) := by
    rw [walked]
    rintro ⟨path, broken⟩
    cases broken
  have seen : FileTree.Overlong (other.locate [] (.ofPlace ["d", part, "a.mustache"])) := by
    rw [walked]
    exact ⟨_, if_pos overlong⟩
  have absent : FileTree.empty.get? ["d", part, "a.mustache"] = none := rfl
  rw [(PartialsDirectory.serve_inside placed inside).1 seen,
    (PartialsDirectory.serve_inside placed inside).2 unseen, absent]
  nofun

/-- A suffix with a null character leads nowhere. A root with a name that no file can have cannot be
there, but whether looking for it gets as far as that name depends on what is around it. -/
theorem null_suffix_and_overlong_root_differ :
    (∃ partials, PartialsDirectory.open? [] "root" "\x00" = .ok partials ∧
      ¬ "a".toList.contains '\x00' ∧ ¬ ∃ place, partials.place? "a" = .ok place) ∧
    (∃ partials, PartialsDirectory.open? [] "root" ".mustache" = .ok partials ∧
      let name := String.ofList [Text.ofUnit 0xd800]
      ¬ name.toList.contains '\x00' ∧ ¬ ∃ place, partials.place? name = .ok place) ∧
    ∃ partials, PartialsDirectory.open? ((Path.read "/").resolve []) ("d/" ++ longName 256)
        ".mustache" = .ok partials ∧
      let other : FileTree := ⟨[(["d"], .directory), ([], .directory)]⟩
      FileTree.empty.Proper ∧ other.Proper ∧
        FileTree.AgreeBelow partials.root .empty other ∧
        (partials.serve .empty "a").result ≠ (partials.serve other "a").result := by
  refine ⟨⟨⟨["root"], "\x00"⟩, by decide +kernel, by decide +kernel, ?_⟩,
    ⟨⟨["root"], ".mustache"⟩, by decide +kernel, by decide +kernel, ?_⟩,
    _, long_name_opened (by decide) _, ?_⟩
  · rintro ⟨place, placed⟩
    exact (PartialsDirectory.place_ok_iff.mp placed).1.2 (by decide +kernel)
  · rintro ⟨place, placed⟩
    have octet := (PartialsDirectory.place_ok_iff.mp placed).1.1 (Text.ofUnit 0xd800)
      (by decide +kernel) 0xd800 (by decide +kernel)
    exact absurd octet (by decide)
  intro other
  refine ⟨FileTree.proper_of_entries (by decide +kernel),
    FileTree.proper_of_entries (by decide +kernel), FileTree.agree_of_entries rfl,
    overlong_root_differs (long_name_named 256) ?_ ?_⟩
  · simp only [Path.text, Path.ofPlace, Text.nameSize, longName, String.toList_append,
      String.toList_intercalate, String.toList_ofList, List.map_cons, List.map_nil]
    decide +kernel
  · simp only [Text.nameSize, longName, String.toList_ofList]
    decide +kernel

end Mustache
