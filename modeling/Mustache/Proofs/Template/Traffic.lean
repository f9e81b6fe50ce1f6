import Mathlib.Data.Fintype.EquivFin
import Mustache.Proofs.Template.Ending
import Mustache.Proofs.Template.Loading
import Mustache.Proofs.Template.Printed
import Mustache.Proofs.Template.Refinement
import Mustache.Proofs.Template.Walk

/-!
Compiling loads partials by the rules. What one tag does to the journal is carried in front of all
that comes after it, so that going through the tokens of a source builds what the rules say of it,
and each level is that with the level inside of it.
-/

namespace Mustache

set_option autoImplicit false

/-- What an action of compiling does to a journal is by the rules. If it comes to a tree, then the
partials of the tree are those of `before` and those that were asked for, in this order. -/
def Accounts (loader : Loader) (chain names : List String) (own : Option Fault)
    (before : List String) (journal : Journal) (run : Except Fault (List Segment) × Journal) :
    Prop :=
  ∃ events, run.2.traffic = journal.traffic ++ events ∧
    Loads loader chain journal.asked names own events (faultOf run.1) ∧
    ∀ segments, run.1 = .ok segments →
      Segment.asksAll segments = before ++ Journal.asked events

/-- What becomes of one tag, in front of anything that comes after it. -/
def Carries (loader : Loader) (chain : List String) (name : String) (journal : Journal) :
    Except Fault (List Segment) × Journal → Prop
  | (.error fault, later) => ∃ events, later.traffic = journal.traffic ++ events ∧
      ∀ names own, Loads loader chain journal.asked (name :: names) own events (some fault)
  | (.ok body, later) => ∃ events, later.traffic = journal.traffic ++ events ∧
      Journal.asked events = name :: Segment.asksAll body ∧
      ∀ names own rest ending, Loads loader chain (journal.asked ++ Journal.asked events) names own
          rest ending →
        Loads loader chain journal.asked (name :: names) own (events ++ rest) ending

section Compiling

variable {loader : Loader} {chain : List String} {name : String}

theorem Accounts.failed {names before : List String} {own : Option Fault} {fault : Fault}
    {events : Journal} {journal later : Journal}
    (grown : later.traffic = journal.traffic ++ events)
    (loads : Loads loader chain journal.asked names own events (some fault)) :
    Accounts loader chain names own before journal (.error fault, later) := by
  refine ⟨events, grown, loads, ?_⟩
  intro segments same
  cases same

theorem include_circular (compile : List String → Source → Compile (List Segment))
    (inside : name ∈ chain) :
    includeWith loader compile chain name =
      throw (.load (.circular (chain ++ [name])) (some name)) := by
  unfold includeWith
  dsimp only
  rw [if_pos (List.contains_iff_mem.mpr inside)]

theorem include_run (compile : List String → Source → Compile (List Segment))
    (absent : name ∉ chain) (journal : Journal) :
    let answer := loader.reply journal.asked name
    let told := journal ++ .asked name :: answer.notes.map .noted
    let number := journal.asked.length
    (includeWith loader compile chain name).run journal =
      match answer.result with
      | .error fault => (.error (fault.wrapped name), told)
      | .ok source =>
          let run := (compile (chain ++ [name]) source).run
            (told ++ source.opening number ++ [.compiling name])
          (source.closeFailure.elim run.1 .error, run.2 ++ source.closing number) := by
  have looked : (get : Compile Journal).run journal = (.ok journal, journal) := rfl
  have requested := request_run loader name journal
  intro answer told number
  unfold includeWith
  dsimp only
  rw [if_neg (by simpa using absent), Action.run_bind_ok looked]
  cases replied : (loader.reply journal.asked name).result with
  | error fault =>
      rw [replied] at requested
      rw [Action.run_bind_error requested]
      rfl
  | ok source =>
      rw [replied] at requested
      rw [Action.run_bind_ok requested]
      cases source with
      | text content =>
          simp only [Source.opening, Source.closing, List.append_nil]
          rfl
      | stream pieces failure closing => rfl

/-- A partial that is there. The stream that it may come in is open while it is compiled. -/
theorem Accounts.carries {journal told : Journal} {source : Source}
    {run : Except Fault (List Segment) × Journal} (absent : name ∉ chain)
    (replied : (loader.reply journal.asked name).result = .ok source)
    (asked : told.asked = journal.asked ++ [name])
    (traffic : told.traffic =
      journal.traffic ++ .asked name :: source.opening journal.asked.length)
    (accounts : Accounts loader (chain ++ [name]) source.inclusions source.ownFault [] told run) :
    Carries loader chain name journal
      (source.closeFailure.elim run.1 .error, run.2 ++ source.closing journal.asked.length) := by
  obtain ⟨events, grown, loads, asks⟩ := accounts
  obtain ⟨outcome, last⟩ := run
  dsimp only at grown loads asks
  have whole : Journal.traffic (last ++ source.closing journal.asked.length) =
      journal.traffic ++ .asked name :: (source.opening journal.asked.length ++ events ++
        source.closing journal.asked.length) := by
    simp [grown, traffic]
  rw [asked] at loads
  cases closed : source.closeFailure with
  | some other =>
      have fails : source.closedAfter (faultOf outcome) = some other := by
        rw [Source.closedAfter, closed]
        rfl
      exact ⟨_, whole, fun names own => .broken absent replied loads fails⟩
  | none =>
      cases outcome with
      | error fault =>
          have fails : source.closedAfter (some fault) = some fault := by
            rw [Source.closedAfter, closed]
            rfl
          exact ⟨_, whole, fun names own => .broken absent replied loads fails⟩
      | ok body =>
          refine ⟨_, whole, ?_, ?_⟩
          · simp [asks body rfl]
          · intro names own rest ending after
            refine .passed absent replied loads closed ?_
            simpa using after

theorem include_carries {mark : Event}
    {compile : List String → Source → Compile (List Segment)}
    (inner : ∀ chain source journal,
      Strays mark ((compile chain source).run journal) ∨
        Accounts loader chain source.inclusions source.ownFault [] journal
          ((compile chain source).run journal))
    (chain : List String) (name : String) (journal : Journal) :
    Strays mark ((includeWith loader compile chain name).run journal) ∨
      Carries loader chain name journal ((includeWith loader compile chain name).run journal) := by
  by_cases inside : name ∈ chain
  · rw [include_circular compile inside]
    exact .inr ⟨[], (List.append_nil _).symm, fun names own => .circular inside⟩
  · rw [include_run compile inside journal]
    cases replied : (loader.reply journal.asked name).result with
    | error fault =>
        refine .inr ⟨[.asked name], ?_, fun names own => .refused inside replied⟩
        rw [Journal.traffic_append, Journal.traffic_request, Journal.traffic_notes]
    | ok source =>
        rcases inner (chain ++ [name]) source _ with ⟨⟨fault, failed⟩, marked⟩ | accounts
        · refine .inl ⟨?_, List.mem_append_left _ marked⟩
          dsimp only
          rw [failed]
          cases source.closeFailure with
          | none => exact ⟨fault, rfl⟩
          | some other => exact ⟨other, rfl⟩
        · exact .inr (accounts.carries inside replied (by simp) (by simp))

theorem conclude_accounts (failure : Option Fault) (assembly : Assembly) (journal : Journal) :
    Accounts loader chain [] (faultFrom failure assembly.openers []) assembly.asks journal
      ((assembly.conclude failure).run journal) := by
  cases failure with
  | some fault => exact .failed (List.append_nil _).symm .finished
  | none =>
      unfold Assembly.conclude
      rw [assembly.finish_nest_out]
      unfold Assembly.openers Assembly.asks
      cases assembly.blocks with
      | nil =>
          refine ⟨[], ?_, .finished, ?_⟩
          · rw [List.append_nil]
            exact (Journal.traffic_append journal _).trans (List.append_nil _)
          · intro segments same
            cases same
            simp [Assembly.asksAround, Journal.asked]
      | cons block blocks => exact .failed (List.append_nil _).symm .finished

theorem assemble_accounts {mark : Event} {config : Config}
    {includePartial : String → Compile (List Segment)}
    (included : ∀ name journal,
      Strays mark ((includePartial name).run journal) ∨
        Carries loader chain name journal ((includePartial name).run journal))
    (failure : Option Fault) (tokens : List Token) (assembly : Assembly) (journal : Journal) :
    let run := (assemble config includePartial assembly tokens >>=
      Assembly.conclude failure).run journal
    Strays mark run ∨
      Accounts loader chain (inclusionsFrom assembly.openers tokens)
        (faultFrom failure assembly.openers tokens) assembly.asks journal run := by
  induction tokens generalizing assembly journal with
  | nil => exact .inr (conclude_accounts failure assembly journal)
  | cons token tokens induction =>
      dsimp only at induction ⊢
      rw [assemble, bind_assoc]
      cases told : token.inclusion? with
      | none =>
          rcases place_silent assembly told journal with
            ⟨next, run, taken, _, asks⟩ | ⟨error, run, refused⟩
          · rw [Action.run_bind_ok run, inclusions_from_cons taken, fault_from_cons taken, told,
              ← asks]
            exact induction next journal
          · rw [Action.run_bind_error run, inclusions_from_refused refused,
              fault_from_refused refused]
            exact .inr (.failed (List.append_nil _).symm .finished)
      | some name =>
          obtain ⟨line, rfl⟩ := Token.inclusion_some told
          have taken : nest assembly.openers (.tag (.inclusion name) line) =
              .ok assembly.openers := rfl
          rw [inclusions_from_cons taken, fault_from_cons taken, told]
          simp only [placeToken, bind_assoc, pure_bind]
          rcases included name journal with strays | carries
          · exact .inl (strays.bind _)
          · rw [Action.run_bind]
            rcases run : (includePartial name).run journal with ⟨outcome, later⟩
            rw [run] at carries
            cases outcome with
            | error fault =>
                obtain ⟨events, grown, loads⟩ := carries
                exact .inr (.failed grown (loads _ _))
            | ok body =>
                obtain ⟨events, grown, asked, loads⟩ := carries
                rcases induction (assembly.add (.included name config body)) later with
                  broken | ⟨rest, further, after, asks⟩
                · exact .inl broken
                · refine .inr ⟨events ++ rest, ?_, ?_, ?_⟩
                  · rw [further, grown, List.append_assoc]
                  · rw [Journal.asked_grown grown] at after
                    exact loads _ _ _ _ after
                  · intro segments same
                    rw [asks segments same, Assembly.asks_add, Journal.asked_append, asked,
                      List.append_assoc]
                    rfl

theorem compile_accounts (config : Config) (mark : Event) (levels : Nat) (chain : List String)
    (source : Source) (journal : Journal) :
    let run := (compileOver config (markedBottom mark) levels chain source).run journal
    Strays mark run ∨
      Accounts config.loader chain source.inclusions source.ownFault [] journal run := by
  induction levels generalizing chain source journal with
  | zero => exact .inl ⟨⟨_, rfl⟩, List.mem_append_right _ (.head _)⟩
  | succ levels induction =>
      exact assemble_accounts (include_carries induction chain) source.scan.failure
        source.scan.tokens .empty journal

end Compiling

theorem Config.Ends.accounts {config : Config} {chain : List String} {source : Source}
    (ends : config.Ends chain source) :
    Accounts config.loader chain source.inclusions source.ownFault [] []
      ((compileLevels config (config.loader.depth + 1) chain source).run []) := by
  let run := (compileLevels config (config.loader.depth + 1) chain source).run []
  have accounts (mark : Event) : mark ∈ run.2 ∨
      Accounts config.loader chain source.inclusions source.ownFault [] [] run := by
    have levels := compile_accounts config mark (config.loader.depth + 1) chain source []
    dsimp only at levels
    rw [ends] at levels
    exact levels.imp_left And.right
  -- A journal has not all marks in it.
  obtain ⟨count, fresh⟩ := Infinite.exists_notMem_finset (run.2.filterMap fun event =>
    match event with
    | .compiled count => some count
    | _ => none).toFinset
  refine (accounts (.compiled count)).resolve_left fun marked => fresh ?_
  rw [List.mem_toFinset]
  exact List.mem_filterMap.mpr ⟨_, marked, rfl⟩

theorem Config.Ends.loads {config : Config} {chain : List String} {source : Source}
    (ends : config.Ends chain source) :
    let outcome := (config.runCompile chain source).1
    let journal := (config.runCompile chain source).2
    Loads config.loader chain [] source.inclusions source.ownFault journal.traffic
        (faultOf outcome) ∧
      ∀ template, outcome = .ok template → journal.asked = Segment.asksAll template.segments := by
  obtain ⟨events, grown, loads, asks⟩ := ends.accounts
  rw [run_compile_levels]
  generalize (compileLevels config (config.loader.depth + 1) chain source).run [] = run at *
  obtain ⟨outcome, journal⟩ := run
  obtain rfl : journal.traffic = events := grown
  dsimp only at loads asks ⊢
  rw [fault_of_map]
  refine ⟨loads, ?_⟩
  intro template same
  cases outcome with
  | error fault => cases same
  | ok segments =>
      cases same
      rw [asks segments rfl, Journal.asked_traffic]
      rfl

/-- The loader has delivered a stream that fails with this when it is closed. -/
def Journal.Unclosed (loader : Loader) (journal : Journal) (fault : Fault) : Prop :=
  ∃ given, journal.Delivered loader given ∧ given.closeFailure = some fault

theorem Delivers.journal {loader : Loader} {journal : Journal} {source : Source}
    (delivers : Delivers loader [] journal.traffic source) : journal.Delivered loader source := by
  obtain ⟨before, name, after, asked, reply⟩ := delivers
  exact ⟨before, name, after, (Journal.asked_traffic journal).symm.trans asked, reply⟩

/-- Partials are loaded by the rules. So the loader is asked in the order of the template and for
nothing after a fault, a fault stays what it is but for the one wrapping of those that are none of
templates, and every stream is closed, an inner one before the one around it. Only where closing
fails is that told of, and nothing of what was inside. -/
theorem partials_load_in_order (config : Config) (chain : List String) (source : Source)
    (ends : config.Ends chain source) :
    let outcome := (config.runCompile chain source).1
    let journal := (config.runCompile chain source).2
    (∀ events ending,
      Loads config.loader chain [] source.inclusions source.ownFault events ending ↔
        events = journal.traffic ∧ ending = faultOf outcome) ∧
    (∀ template, outcome = .ok template → journal.asked = Segment.asksAll template.segments) ∧
    (∀ before name after, journal.asked = before ++ name :: after → name ∉ chain ∧
      (∀ fault, (config.loader.reply before name).result = .error fault →
        after = [] ∧ (outcome = .error (fault.wrapped name) ∨
          ∃ other, outcome = .error other ∧ journal.Unclosed config.loader other)) ∧
      ∀ pieces failure closing,
        (config.loader.reply before name).result = .ok (.stream pieces failure closing) →
        ∃ first inner last, journal.traffic = first ++ .asked name :: .opened before.length ::
            (inner ++ .closed before.length :: last) ∧ Journal.asked first = before ∧
          ∀ number, .closed number ∈ inner ↔ .opened number ∈ inner) ∧
    ∀ fault, outcome = .error fault → fault.isTemplateFault ∨ source.readFailure = some fault ∨
      (∃ given, journal.Delivered config.loader given ∧ given.readFailure = some fault) ∨
      journal.Unclosed config.loader fault := by
  intro outcome journal
  obtain ⟨loads, asks⟩ := ends.loads
  change Loads config.loader chain [] source.inclusions source.ownFault journal.traffic
    (faultOf outcome) at loads
  refine ⟨?_, asks, ?_, ?_⟩
  · intro events ending
    constructor
    · intro other
      exact other.unique loads
    · rintro ⟨rfl, rfl⟩
      exact loads
  · intro before name after asked
    rw [← Journal.asked_traffic] at asked
    obtain ⟨outside, answered⟩ := loads.request asked
    refine ⟨outside, ?_, ?_⟩
    · intro fault refused
      rcases answered with ⟨source, _, _, _, reply, _⟩ | ⟨other, reply, last, ending⟩
      · cases reply.symm.trans refused
      · cases reply.symm.trans refused
        refine ⟨last, ending.imp fault_of_eq_some.mp ?_⟩
        rintro ⟨other, ends, given, delivered, unclosed⟩
        exact ⟨other, fault_of_eq_some.mp ends, given, delivered.journal, unclosed⟩
    · intro pieces failure closing told
      rcases answered with ⟨given, first, inner, last, reply, whole, front, paired⟩ | ⟨_, reply, _⟩
      · cases reply.symm.trans told
        refine ⟨first, inner, last, ?_, front, paired⟩
        rw [whole, List.length_nil, Nat.zero_add]
        simp [Source.opening, Source.closing]
      · cases reply.symm.trans told
  · intro fault fails
    rcases loads.fault (fault_of_eq_some.mpr fails) with
      own | template | ⟨given, delivered, read | unclosed⟩
    · rcases own_fault own with template | read
      · exact .inl template
      · exact .inr (.inl read)
    · exact .inl template
    · exact .inr (.inr (.inl ⟨given, delivered.journal, read⟩))
    · exact .inr (.inr (.inr ⟨given, delivered.journal, unclosed⟩))

/-- A partial in a stream that asks for one that cannot be loaded, and in front of another tag. If
the stream cannot be closed, that is what is told. -/
theorem broken_partial_ends_loading :
    let tag (content : String) : String := String.ofList (Delimiters.standard.tag content.toList)
    let gone : Fault := .raised .system "gone"
    let stuck : Fault := .raised .system "stuck"
    let stream (closing : Option Fault) : Source := .stream [tag "> b"] none closing
    let loader (closing : Option Fault) : Loader := ⟨1, 2, fun _ name =>
      if name = "a" then ⟨[], .ok (stream closing)⟩ else ⟨[], .error gone⟩⟩
    let config (closing : Option Fault) : Config := ⟨.standard, loader closing⟩
    let source : Source := .text (tag "> a" ++ tag "> c")
    let run (closing : Option Fault) := (config closing).runCompile [] source
    let traffic : List Event := [.asked "a", .opened 0, .asked "b", .closed 0]
    (config none).Ends [] source ∧ (config (some stuck)).Ends [] source ∧
      traffic = (run none).2.traffic ∧ some (.unloadable "b" gone) = faultOf (run none).1 ∧
      traffic = (run (some stuck)).2.traffic ∧ some stuck = faultOf (run (some stuck)).1 := by
  intro tag gone stuck stream loader config source run traffic
  have ends : (config none).Ends [] source :=
    Config.ends_of_unmarked (.noted "") (by decide +kernel)
  have ends' : (config (some stuck)).Ends [] source :=
    Config.ends_of_unmarked (.noted "") (by decide +kernel)
  have outer : source.inclusions = ["a", "c"] := by decide +kernel
  have inner : (stream none).inclusions = ["b"] := by decide +kernel
  have alone : (stream none).ownFault = none := by decide +kernel
  have refused (closing : Option Fault) : Loads (loader closing) ["a"] ["a"]
      (stream closing).inclusions (stream closing).ownFault [.asked "b"]
      (some (.unloadable "b" gone)) := by
    change Loads (loader closing) ["a"] ["a"] (stream none).inclusions (stream none).ownFault _ _
    rw [inner, alone]
    exact @Loads.refused (loader closing) ["a"] ["a"] [] "b" none _ (by decide) rfl
  have loads (closing : Option Fault) {fault : Fault}
      (fails : (stream closing).closedAfter (some (.unloadable "b" gone)) = some fault) :
      Loads (loader closing) [] [] source.inclusions source.ownFault traffic (some fault) := by
    rw [outer]
    exact @Loads.broken (loader closing) [] [] ["c"] "a" source.ownFault (stream closing)
      [.asked "b"] _ fault List.not_mem_nil rfl (refused closing) fails
  obtain ⟨sent, told⟩ := ((partials_load_in_order (config none) [] source ends).1 _ _).mp
    (loads none rfl)
  obtain ⟨sent', told'⟩ := ((partials_load_in_order (config (some stuck)) [] source ends').1 _ _).mp
    (loads (some stuck) rfl)
  exact ⟨ends, ends', sent, told, sent', told'⟩

/-- A partial that closes what is not open, in a stream that cannot be closed either: then that is
told, in place of the fault of the partial. Nor is it a fault of templates that ends the compiling of
a source which cannot be read. -/
theorem failing_stream_is_told_of :
    let tag (content : String) : String := String.ofList (Delimiters.standard.tag content.toList)
    let stuck : Fault := .raised .system "stuck"
    let config (closing : Option Fault) : Config :=
      ⟨.standard, ⟨1, 1, fun _ _ => ⟨[], .ok (.stream [tag "/b"] none closing)⟩⟩⟩
    let source : Source := .text (tag "> a")
    let ending (closing : Option Fault) (source : Source) : Option Fault :=
      faultOf ((config closing).runCompile [] source).1
    (config (some stuck)).Ends [] source ∧
      ending none source = some (.parse ⟨.closeWithoutOpen "b", some 1⟩) ∧
      ending (some stuck) source = some stuck ∧ stuck.isTemplateFault = false ∧
      ending none (.stream [] (some (.value .undecodable)) none) = some (.value .undecodable) ∧
      (Fault.value .undecodable).isTemplateFault = false := by
  intro tag stuck config source ending
  exact ⟨Config.ends_of_unmarked (.noted "") (by decide +kernel), by decide +kernel,
    by decide +kernel, rfl, by decide +kernel, rfl⟩

end Mustache
