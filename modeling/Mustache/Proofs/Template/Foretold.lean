import Mustache.Proofs.Outcome
import Mustache.Proofs.Template.Loading
import Mustache.Proofs.Template.Shape
import Mustache.Proofs.Template.Walk

/-!
Actions seen from the end of compiling. The journal only grows, so whatever the loader replies on
the way is in the final journal. In view of that journal an action ends with a good value or an
allowed fault, and so does a chain of actions, down to the partials of partials.
-/

namespace Mustache

set_option autoImplicit false

/-- This is what the loader has replied to a request for this partial. -/
def Journal.Replied (loader : Loader) (journal : Journal) (name : String)
    (reply : Except Fault Source) : Prop :=
  ∃ earlier later, journal.asked = earlier ++ name :: later ∧
    (loader.reply earlier name).result = reply

/-- An action only adds to a journal. If what it leaves is the front of the final journal, then it
has ended with a good value or an allowed fault. Adding to a journal does not take what is `given`
for the rest. -/
def Foretells {α : Type} (final : Journal) (given : Prop) (allowed : Fault → Prop)
    (good : α → Prop) (action : Compile α) : Prop :=
  ∀ journal, journal <+: (action.run journal).2 ∧
    ((action.run journal).2 <+: final → given → Ensures allowed good (action.run journal).1)

namespace Foretells

variable {α β : Type} {final : Journal} {given : Prop} {allowed : Fault → Prop} {good : α → Prop}
  {fine : β → Prop}

theorem of_pure {value : α} (is : given → good value) :
    Foretells final given allowed good (pure value) :=
  fun _ => ⟨List.prefix_rfl, fun _ => is⟩

theorem of_throw {fault : Fault} (may : given → allowed fault) :
    Foretells final given allowed good (throw fault) :=
  fun _ => ⟨List.prefix_rfl, fun _ => may⟩

theorem of_bind {action : Compile α} {next : α → Compile β}
    (first : Foretells final given allowed good action)
    (second : ∀ value, Foretells final (given ∧ good value) allowed fine (next value)) :
    Foretells final given allowed fine (action >>= next) := by
  intro journal
  obtain ⟨grown, ends⟩ := first journal
  rw [Action.run_bind]
  rcases run : action.run journal with ⟨outcome, later⟩
  rw [run] at grown ends
  cases outcome with
  | error fault => exact ⟨grown, ends⟩
  | ok value =>
      obtain ⟨further, last⟩ := second value later
      exact ⟨grown.trans further, fun inside is => last inside ⟨is, ends (further.trans inside) is⟩⟩

theorem weaken {needed : Prop} {loose : α → Prop} {action : Compile α}
    (foretells : Foretells final needed allowed good action) (enough : given → needed)
    (weaker : ∀ value, given → good value → loose value) :
    Foretells final given allowed loose action := by
  intro journal
  obtain ⟨grown, ends⟩ := foretells journal
  exact ⟨grown, fun inside is => (ends inside (enough is)).weaken fun value => weaker value is⟩

theorem of_first {action : Compile α} {next : α → Compile β}
    (first : Foretells final given allowed (fun _ => True) action)
    (second : ∀ value, Foretells final given allowed fine (next value)) :
    Foretells final given allowed fine (action >>= next) :=
  of_bind first fun value => (second value).weaken And.left fun _ _ => id

theorem of_record (event : Event) :
    Foretells final given allowed (fun _ => True) (record event) :=
  fun _ => ⟨⟨[event], rfl⟩, fun _ _ => trivial⟩

theorem of_get : Foretells final given allowed (fun _ => True) (get : Compile Journal) :=
  fun _ => ⟨List.prefix_rfl, fun _ _ => trivial⟩

theorem of_then_close {action : Compile α} (request : Nat) {failure : Option Fault}
    (may : ∀ fault ∈ failure, given → allowed fault)
    (foretells : Foretells final given allowed good action) :
    Foretells final given allowed good (thenClose action request failure) := by
  intro journal
  obtain ⟨grown, ends⟩ := foretells journal
  have longer : (action.run journal).2 <+: (action.run journal).2 ++ [.closed request] :=
    List.prefix_append _ _
  rw [then_close_run]
  refine ⟨grown.trans longer, fun inside is => ?_⟩
  cases failure with
  | none => exact ends (longer.trans inside) is
  | some fault => exact may fault rfl is

theorem of_lift_parse {result : Except ParseError α}
    (ends : given → Ensures (allowed ∘ .parse) good result) :
    Foretells final given allowed good (liftParse result) := by
  cases result with
  | ok value => exact of_pure ends
  | error error => exact of_throw ends

theorem of_request (loader : Loader) (name : String)
    (refused : ∀ fault, final.Replied loader name (.error fault) →
      given → allowed (fault.wrapped name)) :
    Foretells final given allowed (fun source => final.Replied loader name (.ok source))
      (request loader name) := by
  intro journal
  rw [request_run]
  refine ⟨List.prefix_append journal _, fun inside is => ?_⟩
  obtain ⟨later, rfl⟩ := inside
  have replied : Journal.Replied loader (journal ++ .asked name ::
      (loader.reply (Journal.asked journal) name).notes.map .noted ++ later) name
      (loader.reply (Journal.asked journal) name).result :=
    ⟨Journal.asked journal, Journal.asked later, by simp, rfl⟩
  cases reply : (loader.reply (Journal.asked journal) name).result with
  | ok source =>
      rw [reply] at replied
      exact replied
  | error fault =>
      rw [reply] at replied
      exact refused fault replied is

theorem of_include {loader : Loader} {compile : List String → Source → Compile (List Segment)}
    {chain : List String} {name : String} {good : List Segment → Prop}
    (circular : given → allowed (.load (.circular (chain ++ [name])) (some name)))
    (refused : ∀ fault, final.Replied loader name (.error fault) →
      given → allowed (fault.wrapped name))
    (closing : ∀ source, final.Replied loader name (.ok source) →
      ∀ fault ∈ source.closeFailure, given → allowed fault)
    (inner : ∀ source, Foretells final (given ∧ final.Replied loader name (.ok source)) allowed
      good (compile (chain ++ [name]) source)) :
    Foretells final given allowed good (includeWith loader compile chain name) := by
  unfold includeWith
  dsimp only
  split
  · exact of_throw circular
  · apply of_first of_get
    intro journal
    apply of_bind (of_request loader name refused)
    intro source
    cases source with
    | text content => exact of_first (of_record _) fun _ => inner _
    | stream pieces failure closed =>
        apply of_first (of_record _)
        intro _
        apply of_first (of_record _)
        intro _
        refine of_then_close _ ?_ (inner _)
        exact fun fault fails told => closing _ told.2 fault fails told.1

end Foretells

/-- An assembly is what these tokens make, and the partials in it have this property. -/
structure Assembly.Makes (config : Config) (holds : String → List Segment → Prop)
    (tokens : List Token) (assembly : Assembly) : Prop where
  openers : nestAll [] tokens = .ok assembly.openers
  marks : assembly.marks = tokens.flatMap (Token.marks config)
  embeds : assembly.Each (Segment.Embeds holds)

section Compiling

variable {final : Journal} {given : Prop} {allowed : Fault → Prop} {config : Config}
  {holds : String → List Segment → Prop} {includePartial : String → Compile (List Segment)}
  (included : ∀ name, Foretells final given allowed (holds name) (includePartial name))
include included

theorem place_foretells {earlier : List Token} {assembly : Assembly} (token : Token)
    (refused : ∀ error, nestAll [] (earlier ++ [token]) = .error error → given →
      allowed (.parse error)) :
    Foretells final (given ∧ assembly.Makes config holds earlier) allowed
      (Assembly.Makes config holds (earlier ++ [token]))
      (placeToken config includePartial assembly token) := by
  have nested (openers : List Opener) (taken : nestAll [] earlier = .ok openers) :
      nestAll [] (earlier ++ [token]) = nest openers token := by
    rw [nest_all_snoc, taken]
    rfl
  cases told : token.inclusion? with
  | some name =>
      obtain ⟨line, rfl⟩ := Token.inclusion_some told
      refine .of_bind ((included name).weaken And.left fun _ _ => id) fun body => .of_pure ?_
      rintro ⟨⟨_, openers, marks, embeds⟩, inside⟩
      refine ⟨(nested _ openers).trans rfl, ?_, embeds.add inside⟩
      rw [Assembly.marks_add, marks, List.flatMap_append, List.flatMap_singleton]
      rfl
  | none =>
      intro journal
      have placed : (placeToken config includePartial assembly token).run journal =
          (assembly.place config (fun _ => .error default) token, journal) :=
        place_silent_run _ assembly told journal
      rcases @place_silent config includePartial assembly token told journal with
        ⟨next, run, taken, walked, _⟩ | ⟨error, run, fails⟩
      · rw [run]
        refine ⟨List.prefix_rfl, ?_⟩
        rintro _ ⟨_, openers, marks, embeds⟩
        refine ⟨(nested _ openers).trans taken, ?_, ?_⟩
        · rw [walked, marks, List.flatMap_append, List.flatMap_singleton]
        · rw [run] at placed
          have absent (name : String) (body : List Segment)
              (loaded : (.error default : Except Fault (List Segment)) = .ok body) :
              holds name body := by
            cases loaded
          exact place_embeds absent (Prod.ext_iff.mp placed).1.symm embeds
      · rw [run]
        refine ⟨List.prefix_rfl, ?_⟩
        rintro _ ⟨is, openers, _, _⟩
        exact refused error ((nested _ openers).trans fails) is

theorem assemble_foretells {whole : List Token}
    (refused : ∀ error, nestAll [] whole = .error error → given → allowed (.parse error))
    (tokens earlier : List Token) (split : whole = earlier ++ tokens) (assembly : Assembly) :
    Foretells final (given ∧ assembly.Makes config holds earlier) allowed
      (Assembly.Makes config holds whole)
      (assemble config includePartial assembly tokens) := by
  induction tokens generalizing earlier assembly with
  | nil =>
      rw [List.append_nil] at split
      exact .of_pure fun before => split ▸ before.2
  | cons token tokens induction =>
      have early (error : ParseError) (fails : nestAll [] (earlier ++ [token]) = .error error)
          (is : given) : allowed (.parse error) := by
        apply refused error _ is
        rw [split, ← List.singleton_append, ← List.append_assoc, nest_all_append, fails]
        rfl
      refine .of_bind (place_foretells included token early) fun next => ?_
      exact (induction (earlier ++ [token]) (by simp [split]) next).weaken
        (fun before => ⟨before.1.1, before.2⟩) fun _ _ => id

/-- What is compiled from tokens is in their order. The faults on the way are those of partials and
the first of the tokens' own. -/
theorem compile_foretells (scan : Scan)
    (broken : ∀ fault, faultFrom scan.failure [] scan.tokens = some fault → given →
      allowed fault) :
    Foretells final given allowed (fun segments =>
        Segment.marksAll segments = scan.tokens.flatMap (Token.marks config) ∧
          Segment.EmbedsAll holds segments)
      (scan.compile config includePartial) := by
  have refused (error : ParseError) (fails : nestAll [] scan.tokens = .error error) (is : given) :
      allowed (.parse error) := by
    apply broken _ _ is
    rw [faultFrom, fails]
  have started : Assembly.empty.Makes config holds [] := ⟨rfl, rfl, .empty⟩
  have assembled : Foretells final given allowed (Assembly.Makes config holds scan.tokens)
      (assemble config includePartial .empty scan.tokens) :=
    (assemble_foretells included refused scan.tokens [] rfl .empty).weaken
      (fun is => ⟨is, started⟩) fun _ _ => id
  refine .of_bind assembled fun assembly => ?_
  cases failed : scan.failure with
  | some fault =>
      refine .of_throw fun ⟨is, made⟩ => broken fault ?_ is
      rw [faultFrom, made.openers, failed]
  | none =>
      have finished : Foretells final (given ∧ assembly.Makes config holds scan.tokens) allowed
          (fun segments =>
            Segment.marksAll segments = scan.tokens.flatMap (Token.marks config) ∧
              Segment.EmbedsAll holds segments)
          (liftParse assembly.finish) := by
        apply Foretells.of_lift_parse
        rintro ⟨is, made⟩
        rw [assembly.finish_nest_out]
        cases out : nestOut assembly.openers with
        | error error =>
            apply broken (.parse error) _ is
            simp only [faultFrom, made.openers, failed, out]
        | ok _ =>
            have closed : assembly.blocks = [] := by
              cases around : assembly.blocks with
              | nil => rfl
              | cons block blocks =>
                  rw [Assembly.openers, around] at out
                  cases out
            have marks := made.marks
            rw [Assembly.marks, closed] at marks
            refine ⟨marks, (Segment.embeds_all_iff _ _).mpr fun segment member => ?_⟩
            exact made.embeds.1 segment (List.mem_reverse.mp member)
      apply Foretells.of_bind finished
      intro segments
      apply Foretells.of_first (.of_record _)
      intro _
      exact .of_pure And.right

end Compiling

/-- Where all sources are read and closed without a fault, compiling fails with nothing but faults of
templates. -/
theorem Config.fault_of_read {config : Config} {chain : List String} {source : Source}
    {fault : Fault} (whole : source.readFailure = none)
    (given : ∀ earlier name source, (config.loader.reply earlier name).result = .ok source →
      source.readFailure = none ∧ source.closeFailure = none)
    (failed : (config.runCompile chain source).1 = .error fault) :
    fault.isTemplateFault = true := by
  have levels (fuel : Nat) (chain : List String) (source : Source) (final : Journal) :
      Foretells final (source.readFailure = none) (fun fault => fault.isTemplateFault = true)
        (fun _ => True) (compileLevels config fuel chain source) := by
    induction fuel generalizing chain source with
    | zero => exact .of_throw fun _ => rfl
    | succ fuel induction =>
        have included (name : String) : Foretells final (source.readFailure = none)
            (fun fault => fault.isTemplateFault = true) (fun _ => True)
            (includeWith config.loader (compileLevels config fuel) chain name) := by
          apply Foretells.of_include
          · exact fun _ => rfl
          · exact fun fault _ _ => Fault.wrapped_is_template name fault
          · rintro inner ⟨earlier, _, _, reply⟩ fault fails _
            rw [(given earlier name inner reply).2] at fails
            cases fails
          · intro inner
            apply (induction (chain ++ [name]) inner).weaken _ fun _ _ => id
            rintro ⟨_, earlier, _, _, reply⟩
            exact (given earlier name inner reply).1
        rw [compile_levels_succ]
        apply (compile_foretells included source.scan ?_).weaken id fun _ _ _ => trivial
        intro fault own whole
        rcases own_fault own with template | read
        · exact template
        · cases whole.symm.trans read
  obtain ⟨_, ends⟩ := levels (config.loader.depth + 1) chain source _ []
  have outcome := ends List.prefix_rfl whole
  rw [run_compile_levels] at failed
  cases result : ((compileLevels config (config.loader.depth + 1) chain source).run []).1 with
  | ok segments =>
      rw [result] at failed
      cases failed
  | error other =>
      rw [result] at failed outcome
      cases failed
      exact outcome

end Mustache
