import Mustache.Proofs.Action
import Mustache.Settings

/-!
What settings are read from. Each of them has one key in one section, and is what is written there,
or what it usually is. What the other keys and the other sections hold has no part in it, as long as
the settings are accepted at all.
-/

namespace Mustache

set_option autoImplicit false

namespace Settings

/-- What entries have under a key of a section, if anything. A section that is absent or does not
count as true has nothing; an object of host code has what it answers. -/
inductive Written (entries : List (Value × Value)) (part name : String) : Option Value → Prop where
  | absent (free : field? entries part = none) : Written entries part name none
  | blank {contents : Value} {store : Store} (found : field? entries part = some contents)
      (blank : contents.isTrue store = .ok false) : Written entries part name none
  | field {form : MappingForm} {fields : List (Value × Value)}
      (found : field? entries part = some (.mapping form fields)) :
      Written entries part name (field? fields name)
  | answered {host : HostObject Value} {count : Nat} {store later : Store} {value : Value}
      (found : field? entries part = some (.object host))
      (asked : (host.invoke "get" count).run store = (.ok value, later)) :
      Written entries part name (some value)

def fieldIn? (contents : Value) (name : String) : Option Value :=
  match contents with
  | .mapping _ fields => field? fields name
  | _ => none

variable {entries : List (Value × Value)} {part name : String} {store later : Store}

/-- Without host code there is one thing that is written under a key, or nothing. -/
theorem Written.eq_field {written : Option Value} (has : Written entries part name written)
    (plain : ∀ host, field? entries part ≠ some (.object host)) :
    written = (field? entries part).bind (fieldIn? · name) := by
  cases has with
  | absent free => rw [free, Option.bind_none]
  | @blank contents store found blank =>
      rw [found, Option.bind_some]
      cases contents with
      | mapping form fields =>
          have none : fields = [] := by simpa [Value.isTrue] using blank
          rw [none]
          rfl
      | _ => rfl
  | field found =>
      rw [found]
      rfl
  | answered found => exact (plain _ found).elim

def Told (entries : List (Value × Value)) (part : String) (contents : Value) : Prop :=
  field? entries part = some contents ∨
    contents = .mapping .dictionary [] ∧ ∀ name, Written entries part name none

def Found (entries : List (Value × Value)) (part : String) : Option Value → Prop
  | some contents => Told entries part contents
  | none => field? entries part = none

theorem truth_run {value : Value} {flag : Bool}
    (asked : value.truth.run store = (.ok flag, later)) : value.isTrue store = .ok flag := by
  unfold Value.truth at asked
  obtain ⟨_, _, looked, asked⟩ := Action.of_bind_ok asked
  cases looked
  cases truth : value.isTrue store with
  | error fault =>
      rw [truth] at asked
      cases asked
  | ok _ =>
      rw [truth] at asked
      cases asked
      rfl

theorem section_told {form : MappingForm} {found : Option Value}
    (read : (section? (.mapping form entries) part).run store = (.ok found, later)) :
    Found entries part found := by
  unfold section? at read
  dsimp only at read
  split at read
  · next free =>
      cases read
      exact free
  · next contents there =>
      obtain ⟨flag, between, asked, read⟩ := Action.of_bind_ok read
      cases flag with
      | true =>
          cases read
          exact .inl there
      | false =>
          cases read
          exact .inr ⟨rfl, fun name => .blank there (truth_run asked)⟩

theorem ask_written {contents value : Value} {usual : Option Value}
    (told : Told entries part contents)
    (asked : (ask contents name usual).run store = (.ok value, later)) :
    ∃ written, Written entries part name written ∧ value = written.getD (usual.getD .null) := by
  rcases told with found | ⟨rfl, nothing⟩
  · unfold ask at asked
    split at asked
    · next form fields =>
        cases asked
        refine ⟨_, .field found, ?_⟩
        cases field? fields name <;> rfl
    · exact ⟨_, .answered found asked, rfl⟩
    · cases asked
  · cases asked
    exact ⟨none, nothing name, rfl⟩

theorem compiler_written {found : Option Value} {compiler : Options}
    (read : (match found with
      | some contents => readCompiler contents
      | none => pure standard.compiler : Access Options).run store = (.ok compiler, later))
    (told : Found entries part found) :
    ∃ escapeHtml standardsMode defaultValue strictVariables,
      Written entries part "escape_html" escapeHtml ∧
      Written entries part "standards_mode" standardsMode ∧
      Written entries part "default_value" defaultValue ∧
      Written entries part "strict_variables" strictVariables ∧
      compiler = ⟨escapeHtml.getD (.bool true), standardsMode.getD (.bool false),
        defaultValue.getD .null, strictVariables.getD (.bool false)⟩ := by
  cases found with
  | none =>
      cases read
      exact ⟨none, none, none, none, .absent told, .absent told, .absent told, .absent told, rfl⟩
  | some contents =>
      dsimp only at read
      unfold readCompiler at read
      obtain ⟨_, _, first, read⟩ := Action.of_bind_ok read
      obtain ⟨_, _, second, read⟩ := Action.of_bind_ok read
      obtain ⟨_, _, third, read⟩ := Action.of_bind_ok read
      obtain ⟨_, _, fourth, read⟩ := Action.of_bind_ok read
      cases read
      obtain ⟨escapeHtml, escapes, rfl⟩ := ask_written told first
      obtain ⟨standardsMode, restricts, rfl⟩ := ask_written told second
      obtain ⟨defaultValue, replaces, rfl⟩ := ask_written told third
      obtain ⟨strictVariables, insists, rfl⟩ := ask_written told fourth
      exact ⟨_, _, _, _, escapes, restricts, replaces, insists, rfl⟩

theorem partials_written {found : Option Value} {directory suffix : Value}
    (read : (match found with
      | some contents => readPartials contents
      | none => pure (standard.directory, standard.suffix) : Access (Value × Value)).run store =
        (.ok (directory, suffix), later))
    (told : Found entries part found) :
    ∃ root ending, Written entries part "directory" root ∧ Written entries part "suffix" ending ∧
      directory = root.getD .null ∧ suffix = ending.getD (.text ".mustache") := by
  cases found with
  | none =>
      cases read
      exact ⟨none, none, .absent told, .absent told, rfl, rfl⟩
  | some contents =>
      dsimp only at read
      unfold readPartials at read
      obtain ⟨_, _, first, read⟩ := Action.of_bind_ok read
      obtain ⟨_, _, second, read⟩ := Action.of_bind_ok read
      obtain ⟨dotted, _, _, read⟩ := Action.of_bind_ok read
      cases dotted with
      | false => cases read
      | true =>
          cases read
          obtain ⟨root, roots, rfl⟩ := ask_written told first
          obtain ⟨ending, ends, rfl⟩ := ask_written told second
          exact ⟨root, ending, roots, ends, rfl, rfl⟩

theorem field_expanded {environment : Environment} {expanded : List (Value × Value)}
    (expands : expandEntries environment entries = .ok expanded) (name : String) :
    (field? expanded name).map Except.ok =
      (field? entries name).map (Value.expand environment) := by
  induction entries generalizing expanded with
  | nil =>
      cases expands
      rfl
  | cons entry rest induction =>
      obtain ⟨key, value⟩ := entry
      rw [expandEntries] at expands
      obtain ⟨value', here, expands⟩ := except_of_bind_ok expands
      obtain ⟨rest', others, same⟩ := except_of_bind_ok expands
      cases same
      have later := induction others
      unfold field? at later ⊢
      rw [List.findSome?_cons, List.findSome?_cons]
      cases key with
      | text key =>
          by_cases same : key = name
          · simp [same, here]
          · simpa [same] using later
      | _ => exact later

theorem expand_mapping {environment : Environment} {form : MappingForm} {value : Value}
    (expands : (Value.mapping form entries).expand environment = .ok value) :
    ∃ expanded, value = .mapping form expanded ∧ (form = .dictionary → ∀ name,
      (field? expanded name).map Except.ok =
        (field? entries name).map (Value.expand environment)) := by
  cases form with
  | dictionary =>
      rw [Value.expand] at expands
      obtain ⟨expanded, each, same⟩ := except_of_bind_ok expands
      exact ⟨expanded, (Except.ok.inj same).symm, fun _ => field_expanded each⟩
  | view | custom =>
      refine ⟨entries, (Except.ok.inj expands).symm, ?_⟩
      intro other
      cases other

theorem of_section_ok {α β : Type} {found : Option Value} {read : Value → Access α} {usual : α}
    {next : α → Access β} {result : β}
    (succeeds : (match found with
      | some contents => read contents >>= next
      | none => pure usual >>= next : Access β).run store = (.ok result, later)) :
    ∃ first between,
      (match found with
        | some contents => read contents
        | none => pure usual : Access α).run store = (.ok first, between) ∧
      (next first).run between = (.ok result, later) := by
  cases found with
  | some contents => exact Action.of_bind_ok succeeds
  | none => exact Action.of_bind_ok succeeds

/-- Settings that are accepted hold, each by itself, what is written for them. -/
theorem of_expanded_written {form : MappingForm} {settings : Settings}
    (accepted : (ofExpanded (.mapping form entries)).run store = (.ok settings, later)) :
    ∃ escapeHtml standardsMode defaultValue strictVariables root ending,
      Written entries "compiler" "escape_html" escapeHtml ∧
      Written entries "compiler" "standards_mode" standardsMode ∧
      Written entries "compiler" "default_value" defaultValue ∧
      Written entries "compiler" "strict_variables" strictVariables ∧
      Written entries "partials" "directory" root ∧
      Written entries "partials" "suffix" ending ∧
      settings.compiler = ⟨escapeHtml.getD (.bool true), standardsMode.getD (.bool false),
        defaultValue.getD .null, strictVariables.getD (.bool false)⟩ ∧
      settings.directory = root.getD .null ∧
      settings.suffix = ending.getD (.text ".mustache") := by
  unfold ofExpanded at accepted
  obtain ⟨_, _, compilers, accepted⟩ := Action.of_bind_ok accepted
  obtain ⟨compiler, _, compiles, accepted⟩ := of_section_ok accepted
  obtain ⟨_, _, directories, accepted⟩ := Action.of_bind_ok accepted
  obtain ⟨⟨directory, suffix⟩, _, places, accepted⟩ := of_section_ok accepted
  obtain ⟨_, _, _, accepted⟩ := Action.of_bind_ok accepted
  obtain ⟨output, _, _, accepted⟩ := of_section_ok accepted
  cases accepted
  obtain ⟨escapeHtml, standardsMode, defaultValue, strictVariables, escapes, restricts, replaces,
    insists, rfl⟩ := compiler_written compiles (section_told compilers)
  obtain ⟨root, ending, roots, ends, rfl, rfl⟩ :=
    partials_written places (section_told directories)
  exact ⟨_, _, _, _, _, _, escapes, restricts, replaces, insists, roots, ends, rfl, rfl, rfl⟩

theorem of_value_expanded {environment : Environment} {form : MappingForm} {settings : Settings}
    (accepted : (ofValue environment (.mapping form entries)).run store = (.ok settings, later)) :
    ∃ expanded, (Value.mapping form entries).expand environment = .ok (.mapping form expanded) ∧
      (form = .dictionary → ∀ name, (field? expanded name).map Except.ok =
        (field? entries name).map (Value.expand environment)) ∧
      (ofExpanded (.mapping form expanded)).run store = (.ok settings, later) := by
  unfold ofValue at accepted
  obtain ⟨value, between, expands, accepted⟩ := Action.of_bind_ok accepted
  cases result : (Value.mapping form entries).expand environment with
  | error fault =>
      rw [result] at expands
      cases expands
  | ok value =>
      obtain ⟨expanded, rfl, each⟩ := expand_mapping result
      rw [result] at expands
      cases expands
      exact ⟨expanded, rfl, each, accepted⟩

end Settings

end Mustache
