import Mathlib.Data.List.Basic
import Mustache.Settings.Environment

/-!
References to environment variables, and what replacing them comes to. A text is cut into its
references, each one the leftmost that can be found behind the one before it, and the characters
around them. The references of a value are those of its texts in the order in which they stand
there, however deep; the first one to a variable that is not set is reported.
-/

namespace Mustache

set_option autoImplicit false

/-- A reference stands at the front of a text. The name may contain all but a closing brace, so that
it is the longest run of such characters. -/
def RefersTo (text name later : List Char) : Prop :=
  text = '$' :: '{' :: (name ++ '}' :: later) ∧ name ≠ [] ∧ '}' ∉ name

inductive Part where
  | character (c : Char)
  | reference (name : List Char)
  deriving DecidableEq

/-- From left to right a text is cut into references wherever one stands, and into characters
otherwise. -/
inductive Cut : List Char → List Part → Prop where
  | done : Cut [] []
  | character {c : Char} {rest : List Char} {parts : List Part}
      (plain : ∀ name later, ¬ RefersTo (c :: rest) name later) (others : Cut rest parts) :
      Cut (c :: rest) (.character c :: parts)
  | reference {text name later : List Char} {parts : List Part}
      (refers : RefersTo text name later) (others : Cut later parts) :
      Cut text (.reference name :: parts)

theorem take_reference_iff {text name later : List Char} :
    takeReference? text = some (name, later) ↔ RefersTo text name later := by
  constructor
  · intro taken
    unfold takeReference? at taken
    split at taken
    · next rest =>
        split at taken
        · next first others brace after run left =>
            cases taken
            have whole : rest = first :: others ++ brace :: later := by
              rw [← run, ← left, List.takeWhile_append_dropWhile]
            have closing : brace = '}' := by
              have ends := List.head?_dropWhile_not (· ≠ '}') rest
              rw [left] at ends
              simpa using ends
            have named : '}' ∉ first :: others := by
              rw [← run]
              intro member
              simpa using List.all_eq_true.mp List.all_takeWhile _ member
            exact ⟨by rw [whole, closing], List.cons_ne_nil _ _, named⟩
        · cases taken
    · cases taken
  · rintro ⟨rfl, proper, open'⟩
    have each : ∀ c ∈ name, decide (c ≠ '}') = true := by
      intro c member
      exact decide_eq_true fun same => open' (same ▸ member)
    have run : (name ++ '}' :: later).takeWhile (· ≠ '}') = name := by
      rw [List.takeWhile_append_of_pos each]
      simp
    have left : (name ++ '}' :: later).dropWhile (· ≠ '}') = '}' :: later := by
      rw [List.dropWhile_append_of_pos each]
      simp
    obtain ⟨first, others, rfl⟩ := List.exists_cons_of_ne_nil proper
    rw [takeReference?, run, left]

def cut (text : List Char) : List Part :=
  match _taken : takeReference? text with
  | some (name, later) => .reference name :: cut later
  | none =>
      match text with
      | [] => []
      | c :: rest => .character c :: cut rest
  termination_by text.length
  decreasing_by
    · obtain ⟨rfl, _, _⟩ := take_reference_iff.mp _taken
      simp only [List.length_cons, List.length_append]
      omega
    · simp

theorem cut_of_reference {text name later : List Char}
    (taken : takeReference? text = some (name, later)) :
    cut text = .reference name :: cut later := by
  rw [cut]
  split <;> simp_all

theorem cut_of_character {c : Char} {rest : List Char}
    (plain : takeReference? (c :: rest) = none) : cut (c :: rest) = .character c :: cut rest := by
  rw [cut]
  split <;> simp_all

theorem cut_iff {text : List Char} {parts : List Part} : Cut text parts ↔ parts = cut text := by
  constructor
  · intro holds
    induction holds with
    | done => simp [cut, takeReference?]
    | @character c rest parts plain _ induction =>
        have none : takeReference? (c :: rest) = none := by
          rw [Option.eq_none_iff_forall_ne_some]
          rintro ⟨name, later⟩ taken
          exact plain name later (take_reference_iff.mp taken)
        rw [cut_of_character none, induction]
    | reference refers _ induction =>
        rw [cut_of_reference (take_reference_iff.mpr refers), induction]
  · rintro rfl
    fun_induction cut text with
    | case1 text name later taken induction =>
        exact .reference (take_reference_iff.mp taken) induction
    | case2 => exact .done
    | case3 c rest plain induction =>
        refine .character (fun name later refers => ?_) induction
        rw [take_reference_iff.mpr refers] at plain
        cases plain

def Part.source : Part → List Char
  | .character c => [c]
  | .reference name => '$' :: '{' :: (name ++ ['}'])

def Part.name? : Part → Option String
  | .character _ => none
  | .reference name => some (String.ofList name)

def Part.filled (environment : Environment) : Part → List Char
  | .character c => [c]
  | .reference name => ((environment.value? (String.ofList name)).getD "").toList

def referencesIn (text : String) : List String := (cut text.toList).filterMap Part.name?

def Environment.filled (environment : Environment) (text : String) : String :=
  String.ofList ((cut text.toList).flatMap (Part.filled environment))

theorem Cut.joins {text : List Char} {parts : List Part} (cut : Cut text parts) :
    parts.flatMap Part.source = text := by
  induction cut with
  | done => rfl
  | character _ _ induction => rw [List.flatMap_cons, induction, Part.source, List.singleton_append]
  | reference refers _ induction =>
      rw [List.flatMap_cons, induction, Part.source, refers.1]
      simp

theorem Cut.reference_stands {text name : List Char} {parts : List Part} (cut : Cut text parts)
    (there : .reference name ∈ parts) :
    ∃ front after later, text = front ++ after ∧ RefersTo after name later := by
  induction cut with
  | done => cases there
  | @character c rest parts _ _ induction =>
      rcases List.mem_cons.mp there with same | there
      · cases same
      · obtain ⟨front, after, later, rfl, refers⟩ := induction there
        exact ⟨c :: front, after, later, rfl, refers⟩
  | @reference text name' later parts refers _ induction =>
      rcases List.mem_cons.mp there with same | there
      · cases same
        exact ⟨[], text, later, rfl, refers⟩
      · obtain ⟨front, after, last, rfl, stands⟩ := induction there
        refine ⟨'$' :: '{' :: (name' ++ '}' :: front), after, last, ?_, stands⟩
        rw [refers.1]
        simp

theorem Environment.filled_plain (environment : Environment) {text : String}
    (plain : ∀ front after name later, text.toList = front ++ after →
      ¬ RefersTo after name later) :
    referencesIn text = [] ∧ environment.filled text = text := by
  have whole : Cut text.toList (cut text.toList) := cut_iff.mpr rfl
  have character (part : Part) (there : part ∈ cut text.toList) : ∃ c, part = .character c := by
    cases part with
    | character c => exact ⟨c, rfl⟩
    | reference name =>
        obtain ⟨front, after, later, split, refers⟩ := whole.reference_stands there
        exact (plain front after name later split refers).elim
  constructor
  · rw [referencesIn, List.filterMap_eq_nil_iff]
    intro part there
    obtain ⟨c, rfl⟩ := character part there
    rfl
  · have same : (cut text.toList).flatMap (Part.filled environment) =
        (cut text.toList).flatMap Part.source := by
      apply List.flatMap_congr
      intro part there
      obtain ⟨c, rfl⟩ := character part there
      rfl
    rw [filled, same, whole.joins, String.ofList_toList]

mutual
/-- The texts that stand in a value, from the outside in and from left to right. Keys are not among
them, and neither is what stands in other values than lists and dictionaries. -/
def Value.texts : Value → List String
  | .text content => [content]
  | .list items _ => textsEach items
  | .mapping .dictionary entries => textsOfEntries entries
  | _ => []
  termination_by structural value => value
def textsEach : List Value → List String
  | [] => []
  | item :: rest => item.texts ++ textsEach rest
  termination_by structural items => items
def textsOfEntries : List (Value × Value) → List String
  | [] => []
  | (_, value) :: rest => value.texts ++ textsOfEntries rest
  termination_by structural entries => entries
end

mutual
def Value.withTexts (change : String → String) : Value → Value
  | .text content => .text (change content)
  | .list items cell => .list (withTextsEach change items) cell
  | .mapping .dictionary entries => .mapping .dictionary (withTextsInEntries change entries)
  | value => value
  termination_by structural value => value
def withTextsEach (change : String → String) : List Value → List Value
  | [] => []
  | item :: rest => item.withTexts change :: withTextsEach change rest
  termination_by structural items => items
def withTextsInEntries (change : String → String) : List (Value × Value) → List (Value × Value)
  | [] => []
  | (key, value) :: rest => (key, value.withTexts change) :: withTextsInEntries change rest
  termination_by structural entries => entries
end

namespace Environment

variable {α β γ : Type} (environment : Environment)

/-- What comes of replacing these references: the first one to a variable that is not set is a
fault. -/
def settle (names : List String) (result : α) : Except Fault α :=
  match names.find? fun name => (environment.value? name).isNone with
  | some name => .error (unsetFault name)
  | none => .ok result

theorem settle_append (first second : List String) (here : α) (there : β) (both : α → β → γ) :
    environment.settle (first ++ second) (both here there) = (do
      let here ← environment.settle first here
      let there ← environment.settle second there
      return both here there) := by
  unfold settle
  rw [List.find?_append]
  cases first.find? fun name => (environment.value? name).isNone with
  | some name => rfl
  | none => cases second.find? fun name => (environment.value? name).isNone <;> rfl

theorem settle_map (names : List String) (result : α) (change : α → β) :
    environment.settle names (change result) =
      (do return change (← environment.settle names result)) := by
  unfold settle
  cases names.find? fun name => (environment.value? name).isNone <;> rfl

theorem get_settles (name : String) :
    environment.get name = environment.settle [name] ((environment.value? name).getD "") := by
  unfold get settle
  cases value : environment.value? name <;> simp [value]

theorem expand_of_reference {text name later : List Char}
    (taken : takeReference? text = some (name, later)) :
    environment.expand text = (do
      let content ← environment.get (String.ofList name)
      return content.toList ++ (← environment.expand later)) := by
  rw [expand]
  split <;> simp_all

theorem expand_of_character {c : Char} {rest : List Char}
    (plain : takeReference? (c :: rest) = none) :
    environment.expand (c :: rest) = (do return c :: (← environment.expand rest)) := by
  rw [expand]
  split <;> simp_all

theorem expand_settles (text : List Char) :
    environment.expand text = environment.settle ((cut text).filterMap Part.name?)
      ((cut text).flatMap (Part.filled environment)) := by
  fun_induction cut text with
  | case1 text name later taken induction =>
      rw [environment.expand_of_reference taken, get_settles, induction]
      exact (environment.settle_append [String.ofList name] _ _ _
        fun (content : String) rest => content.toList ++ rest).symm
  | case2 => simp [expand, takeReference?, settle]
  | case3 c rest plain induction =>
      rw [environment.expand_of_character plain, induction]
      exact (environment.settle_map _ _ (c :: ·)).symm

end Environment

mutual
theorem Value.expand_settles (environment : Environment) (value : Value) :
    value.expand environment = environment.settle (value.texts.flatMap referencesIn)
      (value.withTexts environment.filled) := by
  match value with
  | .text content =>
      rw [Value.expand, environment.expand_settles, Value.texts, List.flatMap_singleton]
      exact (environment.settle_map _ _ fun filled => Value.text (String.ofList filled)).symm
  | .list items cell =>
      rw [Value.expand, expand_each_settles, Value.texts]
      exact (environment.settle_map _ _ (Value.list · cell)).symm
  | .mapping .dictionary entries =>
      rw [Value.expand, expand_entries_settles, Value.texts]
      exact (environment.settle_map _ _ (Value.mapping .dictionary ·)).symm
  | .mapping .view _ | .mapping .custom _ => rfl
  | .missing | .null | .bool _ | .int _ | .float _ _ | .decimal _ _ | .fraction _ _
  | .complex _ _ _ | .octets _ | .buffer _ _ | .date _ _ _ | .range _ _ _ | .tuple _ | .set _
  | .stream _ _ _ | .array _ _ _ | .routine _ | .object _ => rfl
  termination_by structural value
theorem expand_each_settles (environment : Environment) (items : List Value) :
    expandEach environment items = environment.settle ((textsEach items).flatMap referencesIn)
      (withTextsEach environment.filled items) := by
  match items with
  | [] => rfl
  | item :: rest =>
      rw [expandEach, item.expand_settles, expand_each_settles, textsEach, List.flatMap_append]
      exact (environment.settle_append _ _ _ _ List.cons).symm
  termination_by structural items
theorem expand_entries_settles (environment : Environment) (entries : List (Value × Value)) :
    expandEntries environment entries =
      environment.settle ((textsOfEntries entries).flatMap referencesIn)
        (withTextsInEntries environment.filled entries) := by
  match entries with
  | [] => rfl
  | (key, value) :: rest =>
      rw [expandEntries, value.expand_settles, expand_entries_settles, textsOfEntries,
        List.flatMap_append]
      exact (environment.settle_append _ _ _ _ fun value rest => (key, value) :: rest).symm
  termination_by structural entries
end

mutual
theorem Value.with_texts_kept {change : String → String} (value : Value)
    (kept : ∀ text ∈ value.texts, change text = text) : value.withTexts change = value := by
  match value with
  | .text content => rw [Value.withTexts, kept content (by simp [Value.texts])]
  | .list items cell => rw [Value.withTexts, with_texts_each_kept items kept]
  | .mapping .dictionary entries => rw [Value.withTexts, with_texts_in_entries_kept entries kept]
  | .mapping .view _ | .mapping .custom _ => rfl
  | .missing | .null | .bool _ | .int _ | .float _ _ | .decimal _ _ | .fraction _ _
  | .complex _ _ _ | .octets _ | .buffer _ _ | .date _ _ _ | .range _ _ _ | .tuple _ | .set _
  | .stream _ _ _ | .array _ _ _ | .routine _ | .object _ => rfl
  termination_by structural value
theorem with_texts_each_kept {change : String → String} (items : List Value)
    (kept : ∀ text ∈ textsEach items, change text = text) : withTextsEach change items = items := by
  match items with
  | [] => rfl
  | item :: rest =>
      obtain ⟨first, others⟩ := List.forall_mem_append.mp kept
      rw [withTextsEach, item.with_texts_kept first, with_texts_each_kept rest others]
  termination_by structural items
theorem with_texts_in_entries_kept {change : String → String} (entries : List (Value × Value))
    (kept : ∀ text ∈ textsOfEntries entries, change text = text) :
    withTextsInEntries change entries = entries := by
  match entries with
  | [] => rfl
  | (key, value) :: rest =>
      obtain ⟨first, others⟩ := List.forall_mem_append.mp kept
      rw [withTextsInEntries, value.with_texts_kept first, with_texts_in_entries_kept rest others]
  termination_by structural entries
end

/-- In each text of a value every reference is replaced by what the variable holds, and that is not
looked at again. All else stays: the characters around references, the keys and what is no text, and
the number and the order of all of them. The fault is about the first reference to a variable that
is not set, and there is none otherwise. It says which variable that is, unless no variable can have
such a name. -/
theorem references_are_replaced_once (environment : Environment) (value : Value) :
    (∀ text parts, Cut text parts ↔ parts = cut text) ∧
    (∀ text, (cut text).flatMap Part.source = text) ∧
    (value.expand environment =
      match (value.texts.flatMap referencesIn).find?
        fun name => (environment.value? name).isNone with
      | some name => .error (if (Text.nameOctets? name.toList).isSome
          then .settings (.unsetVariable name) else .value .unencodable)
      | none => .ok (value.withTexts environment.filled)) ∧
    ((∀ text ∈ value.texts, ∀ front after name later, text.toList = front ++ after →
        ¬ RefersTo after name later) →
      value.expand environment = .ok value) := by
  refine ⟨fun text parts => cut_iff, fun text => (cut_iff.mpr rfl).joins,
    value.expand_settles environment, fun plain => ?_⟩
  have filled (text : String) (there : text ∈ value.texts) :=
    environment.filled_plain (plain text there)
  have nothing : value.texts.flatMap referencesIn = [] :=
    List.flatMap_eq_nil_iff.mpr fun text there => (filled text there).1
  rw [value.expand_settles, nothing, value.with_texts_kept fun text there => (filled text there).2]
  rfl

/-- An opening that is never closed is no reference, however deep it stands. -/
theorem unclosed_reference_is_kept :
    let value : Value := .list [.mapping .dictionary [(.text "k", .text "$\x7bHOME")], .int 1] 0
    value.expand [("HOME", "/root")] = .ok value := by
  intro value
  apply (references_are_replaced_once [("HOME", "/root")] value).2.2.2
  intro text there front after name later split refers
  have text_eq : text = "$\x7bHOME" := List.mem_singleton.mp there
  have closing : '}' ∈ text.toList := by
    rw [split, refers.1]
    simp
  rw [text_eq] at closing
  exact absurd closing (by decide)

/-- A variable whose name no octets stand for is not set, and it is not reported as such. -/
theorem unencodable_name_is_not_reported :
    let name := [Text.ofUnit 0xd800]
    let text := '$' :: '{' :: (name ++ ['}'])
    RefersTo text name [] ∧ Environment.value? [] (String.ofList name) = none ∧
      (Value.text (String.ofList text)).expand [] = .error (.value .unencodable) ∧
      (Value.text (String.ofList text)).expand [] ≠
        .error (.settings (.unsetVariable (String.ofList name))) := by
  intro name text
  have refers : RefersTo text name [] := ⟨rfl, by decide, by decide⟩
  have octets : Text.nameOctets? (String.ofList name).toList = none := by
    rw [String.toList_ofList]
    decide
  have unset : Environment.value? [] (String.ofList name) = none := by
    rw [Environment.value?, octets]
    rfl
  have expanded : (Value.text (String.ofList text)).expand [] = .error (.value .unencodable) := by
    rw [Value.expand, String.toList_ofList,
      Environment.expand_of_reference _ (take_reference_iff.mpr refers), Environment.get, unset,
      unsetFault, octets]
    rfl
  refine ⟨refers, unset, expanded, ?_⟩
  rw [expanded]
  nofun

end Mustache
