import Mustache.Proofs.Segment
import Mustache.Proofs.Template.Raw
import Mustache.Proofs.Template.Refinement

/-!
What a template is made of: the source that it is compiled from and the sources that the loader has
delivered meanwhile. The journal knows these, as it only grows and has every request in it. What
all of them have in common holds for each segment, however deep it stands.
-/

namespace Mustache

set_option autoImplicit false

namespace Journal

@[simp]
theorem asked_append (journal rest : Journal) :
    asked (journal ++ rest) = journal.asked ++ rest.asked := List.filterMap_append

@[simp]
theorem asked_cons_request (name : String) (journal : Journal) :
    asked (.asked name :: journal) = name :: journal.asked := rfl

@[simp]
theorem asked_compiling (name : String) : asked [.compiling name] = [] := rfl

@[simp]
theorem asked_notes (notes : List String) : asked (notes.map .noted) = [] := by
  induction notes with
  | nil => rfl
  | cons note notes induction => exact induction

end Journal

/-- A fault of closing stands in the place of what there was to tell. -/
theorem then_close_run {α : Type} (action : Compile α) (request : Nat) (failure : Option Fault)
    (journal : Journal) :
    (thenClose action request failure).run journal =
      (failure.elim (action.run journal).1 .error,
        (action.run journal).2 ++ [.closed request]) := rfl

/-- The loader has answered a request of the journal with this source. -/
def Journal.Delivered (loader : Loader) (journal : Journal) (source : Source) : Prop :=
  ∃ earlier name later, journal.asked = earlier ++ name :: later ∧
    (loader.reply earlier name).result = .ok source

theorem Journal.Delivered.grows {loader : Loader} {journal later : Journal} {source : Source}
    (delivered : journal.Delivered loader source) (grown : journal <+: later) :
    later.Delivered loader source := by
  obtain ⟨events, rfl⟩ := grown
  obtain ⟨earlier, name, rest, asked, reply⟩ := delivered
  refine ⟨earlier, name, rest ++ Journal.asked events, ?_, reply⟩
  rw [Journal.asked_append, asked, List.append_assoc, List.cons_append]

/-- The value of an action that succeeds has this property if all sources delivered so far have
theirs, and the journal has not lost anything. -/
def Obtains {α : Type} (loader : Loader) (fine : Source → Prop) (action : Compile α)
    (holds : α → Prop) : Prop :=
  ∀ journal value later, action.run journal = (.ok value, later) →
    journal <+: later ∧ ((∀ source, later.Delivered loader source → fine source) → holds value)

namespace Obtains

variable {α β : Type} {loader : Loader} {fine : Source → Prop}

theorem of_pure {holds : α → Prop} {value : α} (held : holds value) :
    Obtains loader fine (pure value) holds := by
  intro journal result later run
  cases run
  exact ⟨List.prefix_rfl, fun _ => held⟩

theorem of_throw {holds : α → Prop} (fault : Fault) :
    Obtains loader fine (throw fault) holds := by
  intro journal result later run
  cases run

theorem of_bind {holds : α → Prop} {after : β → Prop} {action : Compile α} {next : α → Compile β}
    (first : Obtains loader fine action holds)
    (second : ∀ value, Obtains loader fine (next value) fun result => holds value → after result) :
    Obtains loader fine (action >>= next) after := by
  intro journal result last run
  obtain ⟨value, middle, firstly, secondly⟩ := Action.of_bind_ok run
  obtain ⟨grown, obtained⟩ := first _ _ _ firstly
  obtain ⟨further, ends⟩ := second _ _ _ _ secondly
  constructor
  · exact grown.trans further
  · intro all
    apply ends all
    apply obtained
    intro source delivered
    exact all source (delivered.grows further)

theorem of_first {holds : β → Prop} {action : Compile α} {next : α → Compile β}
    (first : Obtains loader fine action fun _ => True)
    (second : ∀ value, Obtains loader fine (next value) holds) :
    Obtains loader fine (action >>= next) holds :=
  of_bind first fun value journal result later run =>
    ⟨(second value journal result later run).1,
      fun all _ => (second value journal result later run).2 all⟩

theorem of_record (event : Event) : Obtains loader fine (record event) fun _ => True := by
  intro journal result later run
  cases run
  exact ⟨⟨[event], rfl⟩, fun _ => trivial⟩

theorem of_get : Obtains loader fine (get : Compile Journal) fun _ => True := by
  intro journal result later run
  cases run
  exact ⟨List.prefix_rfl, fun _ => trivial⟩

theorem of_then_close {holds : α → Prop} {action : Compile α} (request : Nat)
    (failure : Option Fault) (obtains : Obtains loader fine action holds) :
    Obtains loader fine (thenClose action request failure) holds := by
  intro journal value last run
  rw [then_close_run] at run
  cases failure with
  | some fault => cases run
  | none =>
      rcases inner : action.run journal with ⟨outcome, later⟩
      rw [inner] at run
      cases run
      obtain ⟨grown, obtained⟩ := obtains _ _ _ inner
      have longer : later <+: later ++ [.closed request] := List.prefix_append later _
      constructor
      · exact grown.trans longer
      · intro all
        apply obtained
        intro source delivered
        exact all source (delivered.grows longer)

theorem of_lift_parse {holds : α → Prop} {result : Except ParseError α}
    (held : ∀ value, result = .ok value → holds value) :
    Obtains loader fine (liftParse result) holds := by
  cases result with
  | ok value => exact of_pure (held value rfl)
  | error error => exact of_throw _

end Obtains

/-- A request is in the journal before anything that the loader has to say about it. -/
theorem request_run (loader : Loader) (name : String) (journal : Journal) :
    (request loader name).run journal =
      (match (loader.reply journal.asked name).result with
        | .ok source => .ok source
        | .error fault =>
            .error (if fault.isTemplateFault then fault else .unloadable name fault),
        journal ++ .asked name :: (loader.reply journal.asked name).notes.map .noted) := by
  have noted (notes : List String) (earlier : Journal) :
      (notes.forM (fun note => record (.noted note)) : Compile Unit).run earlier =
        (.ok (), earlier ++ notes.map .noted) := by
    induction notes generalizing earlier with
    | nil =>
        rw [List.map_nil, List.append_nil]
        rfl
    | cons note notes induction =>
        have first : (record (.noted note)).run earlier = (.ok (), earlier ++ [.noted note]) := rfl
        have step : ((note :: notes).forM (fun note => record (.noted note)) : Compile Unit) =
            record (.noted note) >>= fun _ => notes.forM fun note => record (.noted note) := rfl
        rw [step, Action.run_bind_ok first, induction, List.append_assoc]
        rfl
  have looked : (get : Compile Journal).run journal = (.ok journal, journal) := rfl
  have asked : (record (.asked name)).run journal = (.ok (), journal ++ [.asked name]) := rfl
  unfold request
  rw [Action.run_bind_ok looked]
  dsimp only
  rw [Action.run_bind_ok asked, Action.run_bind_ok (noted _ _), List.append_assoc,
    List.singleton_append]
  cases (loader.reply journal.asked name).result <;> rfl

namespace Obtains

variable {α : Type} {loader : Loader} {fine : Source → Prop}

theorem weaken {holds weaker : α → Prop} {action : Compile α}
    (obtains : Obtains loader fine action holds) (implied : ∀ value, holds value → weaker value) :
    Obtains loader fine action weaker := by
  intro journal value later run
  obtain ⟨grown, obtained⟩ := obtains journal value later run
  exact ⟨grown, fun all => implied value (obtained all)⟩

theorem of_request (name : String) : Obtains loader fine (request loader name) fine := by
  intro journal source later run
  rw [request_run] at run
  cases replied : (loader.reply journal.asked name).result with
  | error fault =>
      rw [replied] at run
      cases run
  | ok given =>
      rw [replied] at run
      cases run
      have front : Journal.asked (journal ++ .asked name ::
          (loader.reply journal.asked name).notes.map .noted) = journal.asked ++ [name] := by
        simp
      exact ⟨List.prefix_append journal _, fun all =>
        all source ⟨journal.asked, name, [], front, replied⟩⟩

theorem of_include {holds : List Segment → Prop}
    {compile : List String → Source → Compile (List Segment)}
    (inner : ∀ chain source,
      Obtains loader fine (compile chain source) fun segments => fine source → holds segments)
    (chain : List String) (name : String) :
    Obtains loader fine (includeWith loader compile chain name) holds := by
  unfold includeWith
  dsimp only
  split
  · exact of_throw _
  · apply of_first of_get
    intro journal
    apply of_bind (of_request name)
    intro source
    cases source with
    | text content => exact of_first (of_record _) fun _ => inner _ _
    | stream pieces failure closing =>
        apply of_first (of_record _)
        intro _
        exact of_first (of_record _) fun _ => of_then_close _ closing (inner _ _)

end Obtains

end Mustache
