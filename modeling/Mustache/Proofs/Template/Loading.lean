import Mustache.Proofs.Template.Delivery
import Mustache.Proofs.Template.Nesting

/-!
The rules by which partials are loaded: in what order, what a fault on the way leads to, and which
streams are closed. They know neither of levels nor of a journal, and there is one rule for each
thing that can become of a tag. What they imply for single requests follows here.
-/

namespace Mustache

set_option autoImplicit false

def inclusionsFrom : List Opener → List Token → List String
  | _, [] => []
  | openers, token :: rest =>
      match nest openers token with
      | .error _ => []
      | .ok next => token.inclusion?.toList ++ inclusionsFrom next rest

/-- What is wrong with tokens by themselves, and with the end of the source that they are from. -/
def faultFrom (failure : Option Fault) (openers : List Opener) (tokens : List Token) :
    Option Fault :=
  match nestAll openers tokens with
  | .error error => some (.parse error)
  | .ok left =>
      match failure, nestOut left with
      | some fault, _ => some fault
      | none, .error error => some (.parse error)
      | none, .ok _ => none

namespace Source

def inclusions (source : Source) : List String := inclusionsFrom [] source.scan.tokens

def ownFault (source : Source) : Option Fault :=
  faultFrom source.scan.failure [] source.scan.tokens

def opening (number : Nat) : Source → List Event
  | .text _ => []
  | .stream _ _ _ => [.opened number]

def closing (number : Nat) : Source → List Event
  | .text _ => []
  | .stream _ _ _ => [.closed number]

/-- What is told of a source once it is closed, where going through it has ended so. -/
def closedAfter (source : Source) (ending : Option Fault) : Option Fault :=
  source.closeFailure.or ending

end Source

/-- The fault of a loader as the one who compiles gets to see it. -/
def Fault.wrapped (name : String) (fault : Fault) : Fault :=
  if fault.isTemplateFault then fault else .unloadable name fault

/-- What loading the partials of `names` leads to, one after the other, inside of the partials of
`chain` and after the requests of `earlier`: requests with the streams between them, and the fault
that ends it all. If nothing else does, that is `own`. -/
inductive Loads (loader : Loader) : List String → List String → List String → Option Fault →
    List Event → Option Fault → Prop where
  | finished {chain earlier : List String} {own : Option Fault} :
      Loads loader chain earlier [] own [] own
  | circular {chain earlier later : List String} {name : String} {own : Option Fault}
      (inside : name ∈ chain) :
      Loads loader chain earlier (name :: later) own []
        (some (.load (.circular (chain ++ [name])) (some name)))
  | refused {chain earlier later : List String} {name : String} {own : Option Fault} {fault : Fault}
      (absent : name ∉ chain) (reply : (loader.reply earlier name).result = .error fault) :
      Loads loader chain earlier (name :: later) own [.asked name] (some (fault.wrapped name))
  | broken {chain earlier later : List String} {name : String} {own : Option Fault}
      {source : Source} {events : List Event} {ended : Option Fault} {fault : Fault}
      (absent : name ∉ chain) (reply : (loader.reply earlier name).result = .ok source)
      (inner : Loads loader (chain ++ [name]) (earlier ++ [name]) source.inclusions source.ownFault
        events ended)
      (fails : source.closedAfter ended = some fault) :
      Loads loader chain earlier (name :: later) own
        (.asked name :: (source.opening earlier.length ++ events ++ source.closing earlier.length))
        (some fault)
  | passed {chain earlier later : List String} {name : String} {own ending : Option Fault}
      {source : Source} {events rest : List Event}
      (absent : name ∉ chain) (reply : (loader.reply earlier name).result = .ok source)
      (inner : Loads loader (chain ++ [name]) (earlier ++ [name]) source.inclusions source.ownFault
        events none)
      (closes : source.closeFailure = none)
      (after : Loads loader chain (earlier ++ name :: Journal.asked events) later own rest ending) :
      Loads loader chain earlier (name :: later) own
        (.asked name ::
          (source.opening earlier.length ++ events ++ source.closing earlier.length) ++ rest) ending

namespace Journal

/-- Requests, and the streams that are opened and closed. -/
def traffic (journal : Journal) : List Event :=
  journal.filter fun event => match event with
    | .asked _ | .opened _ | .closed _ => true
    | _ => false

@[simp]
theorem traffic_append (journal rest : Journal) :
    traffic (journal ++ rest) = journal.traffic ++ rest.traffic := List.filter_append journal rest

@[simp]
theorem traffic_request (name : String) (journal : Journal) :
    traffic (.asked name :: journal) = .asked name :: journal.traffic := rfl

@[simp]
theorem traffic_compiling (name : String) : traffic [.compiling name] = [] := rfl

@[simp]
theorem traffic_notes (notes : List String) : traffic (notes.map .noted) = [] := by
  induction notes with
  | nil => rfl
  | cons note notes induction => exact induction

@[simp]
theorem traffic_opening (source : Source) (number : Nat) :
    traffic (source.opening number) = source.opening number := by
  cases source <;> rfl

@[simp]
theorem traffic_closing (source : Source) (number : Nat) :
    traffic (source.closing number) = source.closing number := by
  cases source <;> rfl

@[simp]
theorem asked_opening (source : Source) (number : Nat) : asked (source.opening number) = [] := by
  cases source <;> rfl

@[simp]
theorem asked_closing (source : Source) (number : Nat) : asked (source.closing number) = [] := by
  cases source <;> rfl

@[simp]
theorem asked_traffic (journal : Journal) : asked journal.traffic = journal.asked := by
  induction journal with
  | nil => rfl
  | cons event journal induction => cases event <;> simp_all [traffic, asked]

theorem asked_grown {journal later : Journal} {events : List Event}
    (grown : later.traffic = journal.traffic ++ events) :
    later.asked = journal.asked ++ asked events := by
  rw [← asked_traffic later, grown, asked_append, asked_traffic]

end Journal

section Cons

variable {openers next : List Opener} {token : Token} {rest : List Token}

theorem inclusions_from_cons (taken : nest openers token = .ok next) :
    inclusionsFrom openers (token :: rest) =
      token.inclusion?.toList ++ inclusionsFrom next rest := by
  rw [inclusionsFrom, taken]

theorem fault_from_cons {failure : Option Fault} (taken : nest openers token = .ok next) :
    faultFrom failure openers (token :: rest) = faultFrom failure next rest := by
  unfold faultFrom nestAll
  rw [List.foldlM_cons, taken]
  rfl

theorem inclusions_from_refused {error : ParseError} (refused : nest openers token = .error error) :
    inclusionsFrom openers (token :: rest) = [] := by
  rw [inclusionsFrom, refused]

theorem fault_from_refused {failure : Option Fault} {error : ParseError}
    (refused : nest openers token = .error error) :
    faultFrom failure openers (token :: rest) = some (.parse error) := by
  unfold faultFrom nestAll
  rw [List.foldlM_cons, refused]
  rfl

end Cons

namespace Loads

variable {loader : Loader} {chain earlier names : List String} {own ending : Option Fault}
  {events : List Event}

theorem closed_iff (loads : Loads loader chain earlier names own events ending) (number : Nat) :
    .closed number ∈ events ↔ .opened number ∈ events := by
  have around (source : Source) (request : Nat) {events : List Event}
      (inner : .closed number ∈ events ↔ .opened number ∈ events) :
      .closed number ∈ source.opening request ++ events ++ source.closing request ↔
        .opened number ∈ source.opening request ++ events ++ source.closing request := by
    cases source <;> simp [Source.opening, Source.closing, inner, or_comm]
  induction loads with
  | finished => simp
  | circular => simp
  | refused => simp
  | broken _ _ _ _ inner => simpa using around _ _ inner
  | @passed chain earlier later name own ending source events rest _ _ _ _ _ inner after =>
      let loaded := source.opening earlier.length ++ events ++ source.closing earlier.length
      calc
        _ ↔ .closed number ∈ loaded ∨ .closed number ∈ rest := by simp [loaded, or_assoc]
        _ ↔ .opened number ∈ loaded ∨ .opened number ∈ rest := or_congr (around _ _ inner) after
        _ ↔ _ := by simp [loaded, or_assoc]

end Loads

/-- A request that is answered. If the answer is a stream, then it is closed when all that is inside
of it has been loaded. -/
def Answered (loader : Loader) (earlier : List String) (events : List Event) (before : List String)
    (name : String) : Prop :=
  ∃ source first inner last, (loader.reply (earlier ++ before) name).result = .ok source ∧
    events = first ++ .asked name :: (source.opening (earlier.length + before.length) ++ inner ++
      source.closing (earlier.length + before.length)) ++ last ∧
    Journal.asked first = before ∧ ∀ number, .closed number ∈ inner ↔ .opened number ∈ inner

namespace Answered

variable {loader : Loader} {earlier before : List String} {name outer : String} {source : Source}
  {events rest : List Event}

theorem here {chain : List String} {ending : Option Fault}
    (reply : (loader.reply earlier name).result = .ok source)
    (inner : Loads loader chain (earlier ++ [name]) source.inclusions source.ownFault events ending)
    (rest : List Event) :
    Answered loader earlier (.asked name :: (source.opening earlier.length ++ events ++
      source.closing earlier.length) ++ rest) [] name :=
  ⟨source, [], events, rest, by rwa [List.append_nil], rfl, rfl, inner.closed_iff⟩

theorem inside (answered : Answered loader (earlier ++ [outer]) events before name)
    (source : Source) (rest : List Event) :
    Answered loader earlier (.asked outer :: (source.opening earlier.length ++ events ++
      source.closing earlier.length) ++ rest) (outer :: before) name := by
  obtain ⟨given, first, inner, last, reply, rfl, rfl, paired⟩ := answered
  refine ⟨given, .asked outer :: (source.opening earlier.length ++ first), inner,
    last ++ source.closing earlier.length ++ rest, ?_, ?_, ?_, paired⟩
  · rwa [List.append_assoc] at reply
  · have number : (earlier ++ [outer]).length + (Journal.asked first).length =
        earlier.length + (outer :: Journal.asked first).length := by
      simp only [List.length_append, List.length_cons, List.length_nil]
      omega
    rw [number]
    simp
  · simp

theorem behind (answered : Answered loader (earlier ++ Journal.asked rest) events before name) :
    Answered loader earlier (rest ++ events) (Journal.asked rest ++ before) name := by
  obtain ⟨given, first, inner, last, reply, rfl, rfl, paired⟩ := answered
  refine ⟨given, rest ++ first, inner, last, ?_, ?_, ?_, paired⟩
  · rwa [List.append_assoc] at reply
  · simp [Nat.add_assoc]
  · simp

end Answered

def Delivers (loader : Loader) (earlier : List String) (events : List Event) (source : Source) :
    Prop :=
  ∃ before name after, Journal.asked events = before ++ name :: after ∧
    (loader.reply (earlier ++ before) name).result = .ok source

namespace Delivers

variable {loader : Loader} {earlier : List String} {name : String} {source given : Source}
  {events rest : List Event}

theorem here (reply : (loader.reply earlier name).result = .ok source) (around : Source)
    (number : Nat) (rest : List Event) :
    Delivers loader earlier (.asked name :: (around.opening number ++ events ++
      around.closing number) ++ rest) source :=
  ⟨[], name, Journal.asked events ++ Journal.asked rest, by simp, by rwa [List.append_nil]⟩

theorem inside (delivers : Delivers loader (earlier ++ [name]) events given) (around : Source)
    (number : Nat) (rest : List Event) :
    Delivers loader earlier (.asked name :: (around.opening number ++ events ++
      around.closing number) ++ rest) given := by
  obtain ⟨before, deeper, after, asked, reply⟩ := delivers
  exact ⟨name :: before, deeper, after ++ Journal.asked rest, by simp [asked], by simpa using reply⟩

theorem behind (delivers : Delivers loader (earlier ++ name :: Journal.asked events) rest given)
    (around : Source) (number : Nat) :
    Delivers loader earlier (.asked name :: (around.opening number ++ events ++
      around.closing number) ++ rest) given := by
  obtain ⟨before, next, after, asked, reply⟩ := delivers
  exact ⟨name :: (Journal.asked events ++ before), next, after, by simp [asked],
    by simpa using reply⟩

end Delivers

/-- A stream has been delivered that fails with this when it is closed. -/
def Uncloses (loader : Loader) (earlier : List String) (events : List Event) (fault : Fault) :
    Prop :=
  ∃ source, Delivers loader earlier events source ∧ source.closeFailure = some fault

theorem Loads.request {loader : Loader} {chain earlier names : List String}
    {own ending : Option Fault} {events : List Event}
    (loads : Loads loader chain earlier names own events ending)
    {before after : List String} {name : String}
    (asked : Journal.asked events = before ++ name :: after) :
    name ∉ chain ∧
      (Answered loader earlier events before name ∨
        ∃ fault, (loader.reply (earlier ++ before) name).result = .error fault ∧ after = [] ∧
          (ending = some (fault.wrapped name) ∨
            ∃ other, ending = some other ∧ Uncloses loader earlier events other)) := by
  induction loads generalizing before after with
  | finished => simp [Journal.asked] at asked
  | circular => simp [Journal.asked] at asked
  | @refused chain earlier later first own fault absent reply =>
      have single : before = [] ∧ first = name ∧ after = [] := by
        cases before with
        | nil => simpa [Journal.asked] using asked
        | cons head before => simp [Journal.asked] at asked
      obtain ⟨rfl, rfl, rfl⟩ := single
      rw [List.append_nil]
      exact ⟨absent, .inr ⟨fault, reply, rfl, .inl rfl⟩⟩
  | @broken chain earlier later first own source events ended fault absent reply inner fails
      induction =>
      simp only [Journal.asked_cons_request, Journal.asked_append, Journal.asked_opening,
        Journal.asked_closing, List.nil_append, List.append_nil] at asked
      cases before with
      | nil =>
          obtain ⟨rfl, rfl⟩ := List.cons.inj asked
          have answered := Answered.here reply inner []
          rw [List.append_nil] at answered
          exact ⟨absent, .inl answered⟩
      | cons head before =>
          obtain ⟨rfl, deeper⟩ := List.cons.inj asked
          obtain ⟨outside, answered | ⟨fault, refused, last, ends⟩⟩ := induction deeper
          · have answered := answered.inside source []
            rw [List.append_nil] at answered
            exact ⟨fun member => outside (List.mem_append_left _ member), .inl answered⟩
          · rw [List.append_assoc] at refused
            refine ⟨fun member => outside (List.mem_append_left _ member),
              .inr ⟨_, refused, last, ?_⟩⟩
            have delivered :=
              @Delivers.here loader earlier first source events reply source earlier.length []
            rw [List.append_nil] at delivered
            -- The source itself is closed last, so that its own failure comes before all others.
            cases closed : source.closeFailure with
            | some other =>
                rw [Source.closedAfter, closed] at fails
                cases fails
                exact .inr ⟨_, rfl, source, delivered, closed⟩
            | none =>
                rw [Source.closedAfter, closed] at fails
                cases fails
                rcases ends with ends | ⟨other, ends, inner, deep, unclosed⟩
                · exact .inl ends
                · have outer := deep.inside source earlier.length []
                  rw [List.append_nil] at outer
                  exact .inr ⟨other, ends, inner, outer, unclosed⟩
  | @passed chain earlier later first own ending source events rest absent reply inner closes after'
      within following =>
      simp only [Journal.asked_cons_request, Journal.asked_append, Journal.asked_opening,
        Journal.asked_closing, List.nil_append, List.append_nil, List.cons_append] at asked
      cases before with
      | nil =>
          obtain ⟨rfl, rfl⟩ := List.cons.inj asked
          exact ⟨absent, .inl (Answered.here reply inner rest)⟩
      | cons head before =>
          obtain ⟨rfl, deeper⟩ := List.cons.inj asked
          rcases Text.split_at deeper with ⟨between, rfl, later⟩ | ⟨tail, found, rfl⟩
          · obtain ⟨outside, answered | ⟨fault, refused, last, ends⟩⟩ := following later
            · have passed : Journal.asked (.asked first :: (source.opening earlier.length ++
                  events ++ source.closing earlier.length)) = first :: Journal.asked events := by
                simp
              rw [← passed] at answered
              have whole := answered.behind
              rw [passed] at whole
              exact ⟨outside, .inl whole⟩
            · refine ⟨outside, .inr ⟨fault, by simpa using refused, last, ends.imp_right ?_⟩⟩
              rintro ⟨other, ends, given, delivered, unclosed⟩
              exact ⟨other, ends, given, delivered.behind source earlier.length, unclosed⟩
          · obtain ⟨outside, answered | ⟨fault, refused, last, ends⟩⟩ := within found
            · exact ⟨fun member => outside (List.mem_append_left _ member),
                .inl (answered.inside source rest)⟩
            · rcases ends with ends | ⟨_, ends, _⟩ <;> cases ends

theorem Fault.wrapped_is_template (name : String) (fault : Fault) :
    (fault.wrapped name).isTemplateFault := by
  unfold Fault.wrapped
  split
  · assumption
  · rfl

theorem own_fault {source : Source} {fault : Fault} (own : source.ownFault = some fault) :
    fault.isTemplateFault ∨ source.readFailure = some fault := by
  unfold Source.ownFault faultFrom at own
  split at own
  · cases own
    exact .inl rfl
  · split at own
    · next failed =>
        cases own
        rcases scan_fault failed with ⟨error, rfl⟩ | read
        · exact .inl rfl
        · exact .inr read
    · cases own
      exact .inl rfl
    · cases own

/-- A fault that no template is to blame for is that of a stream, of this source or of a partial. One
of a partial may be that of closing it. -/
theorem Loads.fault {loader : Loader} {chain earlier names : List String}
    {own ending : Option Fault} {events : List Event}
    (loads : Loads loader chain earlier names own events ending) {fault : Fault}
    (ends : ending = some fault) :
    own = some fault ∨ fault.isTemplateFault ∨
      ∃ source, Delivers loader earlier events source ∧
        (source.readFailure = some fault ∨ source.closeFailure = some fault) := by
  induction loads with
  | finished => exact .inl ends
  | circular =>
      cases ends
      exact .inr (.inl rfl)
  | refused =>
      cases ends
      exact .inr (.inl (Fault.wrapped_is_template _ _))
  | @broken chain earlier later name own source events ended _ _ reply _ fails induction =>
      have delivered :=
        @Delivers.here loader earlier name source events reply source earlier.length []
      rw [List.append_nil] at delivered
      cases closed : source.closeFailure with
      | some other =>
          rw [Source.closedAfter, closed] at fails
          cases fails
          cases ends
          exact .inr (.inr ⟨source, delivered, .inr closed⟩)
      | none =>
          rw [Source.closedAfter, closed] at fails
          rcases induction (fails.trans ends) with own | template | ⟨given, deep, failed⟩
          · exact (own_fault own).elim (fun template => .inr (.inl template))
              fun read => .inr (.inr ⟨source, delivered, .inl read⟩)
          · exact .inr (.inl template)
          · have outer := deep.inside source earlier.length []
            rw [List.append_nil] at outer
            exact .inr (.inr ⟨given, outer, failed⟩)
  | @passed chain earlier later name own _ source events rest _ _ _ _ _ _ following =>
      rcases following ends with own | template | ⟨given, later, failed⟩
      · exact .inl own
      · exact .inr (.inl template)
      · exact .inr (.inr ⟨given, later.behind source earlier.length, failed⟩)

/-- The rules leave no choice. -/
theorem Loads.unique {loader : Loader} {chain earlier names : List String}
    {own ending ending' : Option Fault} {events events' : List Event}
    (loads : Loads loader chain earlier names own events ending)
    (loads' : Loads loader chain earlier names own events' ending') :
    events = events' ∧ ending = ending' := by
  induction loads generalizing events' ending' with
  | finished =>
      cases loads'
      exact ⟨rfl, rfl⟩
  | circular inside =>
      cases loads' with
      | circular => exact ⟨rfl, rfl⟩
      | refused absent | broken absent | passed absent => exact absurd inside absent
  | refused absent reply =>
      cases loads' with
      | circular inside => exact absurd inside absent
      | refused _ reply' =>
          cases reply.symm.trans reply'
          exact ⟨rfl, rfl⟩
      | broken _ reply' | passed _ reply' => cases reply.symm.trans reply'
  | broken absent reply inner fails induction =>
      cases loads' with
      | circular inside => exact absurd inside absent
      | refused _ reply' => cases reply.symm.trans reply'
      | broken _ reply' inner' fails' =>
          cases reply.symm.trans reply'
          obtain ⟨rfl, rfl⟩ := induction inner'
          exact ⟨rfl, fails.symm.trans fails'⟩
      | passed _ reply' inner' closes =>
          cases reply.symm.trans reply'
          obtain ⟨rfl, rfl⟩ := induction inner'
          rw [Source.closedAfter, closes] at fails
          cases fails
  | passed absent reply inner closes after induction following =>
      cases loads' with
      | circular inside => exact absurd inside absent
      | refused _ reply' => cases reply.symm.trans reply'
      | broken _ reply' inner' fails =>
          cases reply.symm.trans reply'
          obtain ⟨rfl, rfl⟩ := induction inner'
          rw [Source.closedAfter, closes] at fails
          cases fails
      | passed _ reply' inner' _ after' =>
          cases reply.symm.trans reply'
          obtain ⟨rfl, _⟩ := induction inner'
          obtain ⟨rfl, rfl⟩ := following after'
          exact ⟨rfl, rfl⟩

end Mustache
