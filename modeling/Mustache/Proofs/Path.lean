import Mathlib.Data.List.Basic
import Mustache.Path

/-!
What a path means. Here a path is a text that is cut at its slashes, and its meaning is the place
that the pieces lead to one after the other. No file is looked at for that. Resolving fails just if
the text has a character that no name of a file can hold.
-/

namespace Mustache

set_option autoImplicit false

namespace Text

/-- The pieces between separators, with one separator put between any two of them, are the whole. -/
theorem intercalate_pieces {α : Type} [DecidableEq α] (mark : α) (items : List α) :
    [mark].intercalate (pieces (· = mark) items) = items := by
  induction items with
  | nil => rfl
  | cons item rest induction =>
      have some : ∃ first later, pieces (· = mark) rest = first :: later := by
        cases rest with
        | nil => exact ⟨[], [], rfl⟩
        | cons next rest =>
            unfold pieces
            split
            · exact ⟨_, _, rfl⟩
            · split <;> exact ⟨_, _, rfl⟩
      obtain ⟨first, later, cut⟩ := some
      rw [cut] at induction
      unfold pieces
      rw [cut]
      by_cases separates : item = mark
      · subst separates
        simp [List.intercalate_cons_cons, induction]
      · simp only [separates, decide_false, Bool.false_eq_true, if_false]
        cases later with
        | nil => simpa using induction
        | cons second later =>
            rw [List.intercalate_cons_cons] at induction ⊢
            simpa using induction

theorem pieces_unmarked {α : Type} [DecidableEq α] {mark : α} {items : List α}
    (unmarked : mark ∉ items) : pieces (· = mark) items = [items] := by
  induction items with
  | nil => rfl
  | cons item rest induction =>
      have inside : ¬ item = mark := (List.ne_of_not_mem_cons unmarked).symm
      unfold pieces
      rw [induction (List.not_mem_of_not_mem_cons unmarked)]
      simp [inside]

theorem not_mem_pieces {α : Type} [DecidableEq α] (mark : α) (items : List α) :
    ∀ piece ∈ pieces (· = mark) items, mark ∉ piece := by
  induction items with
  | nil => simp [pieces]
  | cons item rest induction =>
      unfold pieces
      split
      · next separates =>
          exact List.forall_mem_cons.mpr ⟨List.not_mem_nil, induction⟩
      · next inside =>
          have other : mark ≠ item := by
            rintro rfl
            simp at inside
          split
          · simpa using other
          · next first later cut =>
              rw [cut] at induction
              obtain ⟨here, others⟩ := List.forall_mem_cons.mp induction
              exact List.forall_mem_cons.mpr ⟨List.not_mem_cons_of_ne_of_not_mem other here, others⟩

theorem pieces_eq_split {α : Type} (separator : α → Bool) (items : List α) :
    pieces separator items = items.splitOnP separator := by
  induction items with
  | nil => simp [pieces]
  | cons item rest induction =>
      rw [pieces, induction, List.splitOnP_cons_eq_if_modifyHead]
      cases cut : rest.splitOnP separator with
      | nil => exact absurd cut (List.splitOnP_ne_nil separator rest)
      | cons piece later => simp

/-- Texts without the separator are found again when they are joined with it. -/
theorem pieces_intercalate {α : Type} [DecidableEq α] {mark : α} {groups : List (List α)}
    (some : groups ≠ []) (unmarked : ∀ group ∈ groups, mark ∉ group) :
    pieces (· = mark) ([mark].intercalate groups) = groups := by
  rw [pieces_eq_split]
  exact List.splitOn_intercalate mark unmarked some

end Text

namespace Text

/-- The characters of the pieces are those of the whole, but for the separators. -/
theorem mem_pieces_iff {α : Type} [DecidableEq α] {mark item : α} (other : item ≠ mark)
    (items : List α) : (∃ piece ∈ pieces (· = mark) items, item ∈ piece) ↔ item ∈ items := by
  induction items with
  | nil => simp [pieces]
  | cons first rest induction =>
      unfold pieces
      by_cases separates : first = mark
      · simp [separates, induction, other]
      · cases cut : pieces (· = mark) rest with
        | nil => simp [cut, separates, ← induction]
        | cons piece later =>
            rw [cut] at induction
            simp only [separates, decide_false, Bool.false_eq_true, if_false, List.mem_cons,
              ← induction, exists_eq_or_imp, or_assoc]

theorem surrogate_none {c : Char} (early : c.toNat < 0x100000) : surrogate? c = none := by
  have apart (unit : Nat) : c.toNat ≠ 0x100000 + unit := by omega
  simp [surrogate?, apart]

def IsName (text : List Char) : Prop :=
  (∀ c ∈ text, ∀ unit, surrogate? c = some unit → isOctetSurrogate unit = true) ∧ '\x00' ∉ text

theorem name_octets_some_iff (text : List Char) : (nameOctets? text).isSome = true ↔
    ∀ c ∈ text, ∀ unit, surrogate? c = some unit → isOctetSurrogate unit = true := by
  induction text with
  | nil => simp [nameOctets?]
  | cons c rest induction =>
      have own : (nameCharacter? c).isSome = true ↔
          ∀ unit, surrogate? c = some unit → isOctetSurrogate unit = true := by
        unfold nameCharacter?
        cases surrogate? c with
        | none => simp
        | some unit => by_cases octet : isOctetSurrogate unit = true <;> simp [octet]
      rw [List.forall_mem_cons, ← induction, ← own, nameOctets?]
      cases nameCharacter? c <;> cases nameOctets? rest <;> simp

end Text

/-- From a place one after the other of these parts leads to another place: empty parts and single
dots lead nowhere else, two dots to the directory around, which at the top is the top itself, and
any other part to what has that name. -/
inductive Leads : List String → List String → List String → Prop where
  | here (place : List String) : Leads place [] place
  | stay {place rest last : List String} {part : String} (idle : part = "" ∨ part = ".")
      (onward : Leads place rest last) : Leads place (part :: rest) last
  | leave {place rest last : List String} (onward : Leads place.dropLast rest last) :
      Leads place (".." :: rest) last
  | enter {place rest last : List String} {part : String}
      (proper : part ≠ "" ∧ part ≠ "." ∧ part ≠ "..") (onward : Leads (place ++ [part]) rest last) :
      Leads place (part :: rest) last

namespace Path

theorem leads_follow (parts place : List String) :
    Leads place parts ((parts.filter fun part => part ≠ "" ∧ part ≠ ".").foldl follow place) := by
  induction parts generalizing place with
  | nil => exact .here place
  | cons part rest induction =>
      by_cases idle : part = "" ∨ part = "."
      · rw [List.filter_cons_of_neg (by simpa [or_iff_not_imp_left] using idle)]
        exact .stay idle (induction place)
      · rw [not_or] at idle
        rw [List.filter_cons_of_pos (by simpa using idle), List.foldl_cons]
        by_cases leaves : part = ".."
        · subst leaves
          exact .leave (induction place.dropLast)
        · have step : follow place part = place ++ [part] := if_neg leaves
          rw [step]
          exact .enter ⟨idle.1, idle.2, leaves⟩ (induction (place ++ [part]))

/-- The place that a text means in a directory is where its pieces between slashes lead. A text that
begins with a slash leads on from the top. -/
def Means (directory : List String) (text : String) (place : List String) : Prop :=
  ∃ parts : List String, "/".intercalate parts = text ∧ (∀ part ∈ parts, '/' ∉ part.toList) ∧
    Leads (if text.toList.head? = some '/' then [] else directory) parts place

theorem anchor_of_head (text : List Char) :
    (anchorOf text != .current) = (text.head? == some '/') := by
  unfold anchorOf
  split
  · rfl
  · rfl
  · rfl
  · next other =>
      cases text with
      | nil => rfl
      | cons c rest =>
          have apart : c ≠ '/' := by
            rintro rfl
            exact other rest rfl
          simp [apart]

theorem resolve_means (directory : List String) (text : String) :
    Means directory text ((read text).resolve directory) := by
  refine ⟨(Text.pieces (· = '/') text.toList).map String.ofList, ?_, ?_, ?_⟩
  · apply String.toList_inj.mp
    rw [String.toList_intercalate, List.map_map]
    have same : String.toList ∘ String.ofList = id := funext fun _ => String.toList_ofList
    rw [same, List.map_id]
    exact Text.intercalate_pieces '/' text.toList
  · intro part member
    obtain ⟨piece, inside, rfl⟩ := List.mem_map.mp member
    rw [String.toList_ofList]
    exact Text.not_mem_pieces '/' text.toList piece inside
  · have leads := leads_follow ((Text.pieces (· = '/') text.toList).map String.ofList)
      (if text.toList.head? = some '/' then [] else directory)
    unfold resolve read absolute
    dsimp only
    rw [anchor_of_head]
    simpa using leads

theorem resolve_plain {directory : List String} (plain : parentMark ∉ directory) (path : Path) :
    parentMark ∉ path.resolve directory := by
  have followed (parts place : List String) (clean : parentMark ∉ place) :
      parentMark ∉ parts.foldl follow place := by
    induction parts generalizing place with
    | nil => exact clean
    | cons part rest induction =>
        rw [List.foldl_cons]
        apply induction
        unfold follow
        split
        · exact fun member => clean ((List.dropLast_sublist place).subset member)
        · next other => simpa [clean] using Ne.symm other
  unfold resolve
  apply followed
  split
  · exact List.not_mem_nil
  · exact plain

theorem part_fault_none_iff (shown part : String) :
    partFault? shown part = none ↔ Text.IsName part.toList := by
  unfold partFault? Text.IsName
  rw [← Text.name_octets_some_iff]
  cases Text.nameOctets? part.toList <;> by_cases null : '\x00' ∈ part.toList <;> simp [null]

/-- A text is a name for the system just if all its parts are. -/
theorem names_iff (text : String) :
    (∀ part ∈ (read text).parts, Text.IsName part.toList) ↔ Text.IsName text.toList := by
  have apart : '\x00' ≠ '/' := by decide
  have lone_apart {c : Char} {unit : Nat} (lone : Text.surrogate? c = some unit) :
      c ≠ '/' ∧ c ≠ '.' := by
    constructor <;> rintro rfl <;> rw [Text.surrogate_none (by decide)] at lone <;> cases lone
  have solid {part : String} {c : Char} (there : c ∈ part.toList)
      (stays : c ≠ '.') : part ≠ "" ∧ part ≠ "." := by
    constructor
    · rintro rfl
      cases there
    · rintro rfl
      exact stays (List.mem_singleton.mp there)
  have found {c : Char} (other : c ≠ '/') (stays : c ≠ '.') :
      (∃ part ∈ (read text).parts, c ∈ part.toList) ↔ c ∈ text.toList := by
    rw [← Text.mem_pieces_iff other]
    constructor
    · rintro ⟨part, member, there⟩
      obtain ⟨piece, inside, rfl⟩ := List.mem_map.mp (List.mem_filter.mp member).1
      exact ⟨piece, inside, by rwa [String.toList_ofList] at there⟩
    · rintro ⟨piece, inside, there⟩
      have listed : c ∈ (String.ofList piece).toList := by rwa [String.toList_ofList]
      refine ⟨String.ofList piece, List.mem_filter.mpr ⟨List.mem_map_of_mem inside, ?_⟩, listed⟩
      exact decide_eq_true (solid listed stays)
  constructor
  · intro each
    constructor
    · intro c there unit lone
      obtain ⟨slash, dot⟩ := lone_apart lone
      obtain ⟨part, member, inside⟩ := (found slash dot).mpr there
      exact (each part member).1 c inside unit lone
    · intro there
      obtain ⟨part, member, inside⟩ := (found apart (by decide)).mpr there
      exact (each part member).2 inside
  · intro whole part member
    constructor
    · intro c there unit lone
      obtain ⟨slash, dot⟩ := lone_apart lone
      exact whole.1 c ((found slash dot).mp ⟨part, member, there⟩) unit lone
    · exact fun there => whole.2 ((found apart (by decide)).mp ⟨part, member, there⟩)

theorem resolve_ok_iff {shown text : String} {directory place : List String} :
    (read text).resolve? shown directory = .ok place ↔
      Text.IsName text.toList ∧ place = (read text).resolve directory := by
  have fine : (read text).parts.findSome? (partFault? shown) = none ↔
      Text.IsName text.toList := by
    rw [← names_iff, List.findSome?_eq_none_iff]
    simp only [part_fault_none_iff]
  unfold resolve?
  cases fault : (read text).parts.findSome? (partFault? shown) with
  | none => simp [fine.mp fault, eq_comm]
  | some cause =>
      have refused : ¬ Text.IsName text.toList := by
        rw [← fine, fault]
        nofun
      simp [refused]

theorem resolve_error {text : String} (shown : String) (directory : List String)
    (unnamed : ¬ Text.IsName text.toList) :
    ∃ fault, (read text).resolve? shown directory = .error (.file fault) := by
  unfold resolve?
  cases found : (read text).parts.findSome? (partFault? shown) with
  | some fault => exact ⟨fault, rfl⟩
  | none =>
      refine absurd ((names_iff text).mp ?_) unnamed
      intro part member
      exact (part_fault_none_iff shown part).mp (List.findSome?_eq_none_iff.mp found part member)

end Path

end Mustache
