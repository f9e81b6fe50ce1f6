import Mustache.Proofs.Value.Offered
import Mustache.Value.Lookup

/-!
Routines that are looked up. A call gives its arguments to parameters by a rule that knows nothing
of looking up names: each argument goes by its place, and a parameter that is left without one must
be able to do without. A routine that a value has is called just if the call would go through by
that rule with nothing but what the routine is bound to. So what a name comes to is never a routine
that has not been called, and never a fault about arguments.
-/

namespace Mustache

set_option autoImplicit false

namespace Param

def gathers : Param → Bool
  | .anyPositional | .anyKeyword => true
  | _ => false

def hasDefault : Param → Bool
  | .optional | .optionalKeyword => true
  | _ => false

def Spared (param : Param) : Prop := param.gathers = true ∨ param.hasDefault = true

theorem spared_iff (param : Param) : param.Spared ↔ param.needsArgument = false := by
  cases param <;> simp [needsArgument, Spared, gathers, hasDefault]

end Param

/-- A call with so many arguments, each given by its place, gives every parameter what it needs. -/
inductive Accepts : List Param → Nat → Prop where
  | done : Accepts [] 0
  | given {param : Param} {rest : List Param} {count : Nat} (takes : param.takesPlace = true)
      (others : Accepts rest count) : Accepts (param :: rest) (count + 1)
  | gathered {rest : List Param} (count : Nat) (others : Accepts rest 0) :
      Accepts (.anyPositional :: rest) count
  | spared {param : Param} {rest : List Param} (free : param.Spared) (others : Accepts rest 0) :
      Accepts (param :: rest) 0

namespace Accepts

theorem nothing_iff {params : List Param} :
    Accepts params 0 ↔ ∀ param ∈ params, param.Spared := by
  induction params with
  | nil => exact ⟨fun _ => List.forall_mem_nil _, fun _ => .done⟩
  | cons param rest induction =>
      rw [List.forall_mem_cons, ← induction]
      constructor
      · intro accepts
        cases accepts with
        | gathered _ others => exact ⟨.inl rfl, others⟩
        | spared free others => exact ⟨free, others⟩
      · rintro ⟨free, others⟩
        exact .spared free others

/-- The only argument of a call is one that a receiver may be bound to beforehand. -/
theorem receiver_iff {params : List Param} :
    Accepts params 1 ↔ ∃ left, Routine.bindReceiver? params = some left ∧ Accepts left 0 := by
  constructor
  · intro accepts
    cases accepts with
    | @given param rest _ takes others =>
        refine ⟨rest, ?_, others⟩
        cases param <;> first | rfl | cases takes
    | gathered _ others => exact ⟨_, rfl, .spared (.inl rfl) others⟩
  · rintro ⟨left, bound, others⟩
    unfold Routine.bindReceiver? at bound
    split at bound
    · cases bound
      cases others with
      | gathered _ others | spared _ others => exact .gathered 1 others
    · cases bound
      exact .given rfl others
    · cases bound
      exact .given rfl others
    · cases bound
      exact .given rfl others
    · cases bound

end Accepts

namespace Routine

/-- A call goes through just if the rule says so. -/
theorem accepts_eq_true_iff {params : List Param} {count : Nat} :
    accepts params count = true ↔ Accepts params count := by
  induction params generalizing count with
  | nil =>
      rw [accepts, beq_iff_eq]
      constructor
      · rintro rfl
        exact .done
      · intro accepted
        cases accepted
        rfl
  | cons param rest induction =>
      constructor
      · intro accepted
        unfold accepts at accepted
        split at accepted
        · cases ‹_ :: _ = []›
        · next same =>
            cases same
            exact .gathered _ (induction.mp accepted)
        · next same =>
            cases same
            obtain ⟨free, others⟩ := Bool.and_eq_true_iff.mp accepted
            refine .spared (Param.spared_iff _ |>.mpr ?_) (induction.mp others)
            simpa using free
        · next same =>
            cases same
            obtain ⟨takes, others⟩ := Bool.and_eq_true_iff.mp accepted
            exact .given takes (induction.mp others)
      · intro accepted
        cases accepted with
        | @given _ _ count takes others =>
            have further := induction.mpr others
            cases param <;> first | exact further | exact absurd takes (by decide)
        | gathered _ others =>
            have further := induction.mpr others
            cases count <;> exact further
        | spared free others =>
            have further := induction.mpr others
            have needless := (Param.spared_iff param).mp free
            cases param <;> first | exact further | simpa [accepts, needless] using further

theorem accepts_iff {params : List Param} {bound : Bool} :
    Accepts params bound.toNat ↔
      ∃ left, remaining? params bound = some left ∧ ∀ param ∈ left, param.Spared := by
  cases bound with
  | false => exact Accepts.nothing_iff.trans (by simp [remaining?])
  | true => exact Accepts.receiver_iff.trans (by simp only [remaining?, Accepts.nothing_iff])

variable {routine : Routine Value} {bound : Bool}

/-- The test is about the parameters that a routine is said to have. -/
theorem takes_no_arguments_iff (honest : routine.claimed = none) :
    routine.takesNoArguments bound = true ↔ Accepts routine.params bound.toNat := by
  rw [accepts_iff]
  unfold takesNoArguments signature
  rw [honest, Option.getD_none]
  cases remaining? routine.params bound with
  | none => simp
  | some left => simp [Param.spared_iff]

theorem call_accepted {count : Nat} (accepted : Accepts routine.params (bound.toNat + count)) :
    routine.call bound count = routine.run := if_pos (accepts_eq_true_iff.mpr accepted)

theorem call_refused {count : Nat} (refused : ¬ Accepts routine.params (bound.toNat + count)) :
    routine.call bound count = throw (.value .wrongType) :=
  if_neg fun accepted => refused (accepts_eq_true_iff.mp accepted)

theorem run_result (routine : Routine Value) (store : Store) :
    routine.run.run store =
      match routine.outcome with
      | .returns result => (.ok result, store)
      | .raises fault => (.error fault, store)
      | .counts => (.ok (.int (store.counter routine.cell + 1 : Nat)),
          store.setCounter routine.cell (store.counter routine.cell + 1)) := by
  unfold run
  cases routine.outcome <;> rfl

end Routine

namespace Attribute

def Plain : Attribute → Prop
  | .absent => True
  | .value found => ∀ routine, found ≠ .routine routine
  | .routine _ _ => False

theorem of_value_plain {found : Value} (other : ∀ routine, found ≠ .routine routine) :
    (ofValue found).Plain := by
  cases found <;> first | exact other | exact (other _ rfl).elim

variable {routine : Routine Value} {bound : Bool} (honest : routine.claimed = none)
include honest

theorem used_accepted (accepted : Accepts routine.params bound.toNat) :
    (Attribute.routine routine bound).used = routine.run := by
  dsimp only [used]
  rw [if_pos ((Routine.takes_no_arguments_iff honest).mpr accepted)]
  exact Routine.call_accepted accepted

theorem used_refused (refused : ¬ Accepts routine.params bound.toNat) :
    (Attribute.routine routine bound).used = pure .missing :=
  if_neg fun takes => refused ((Routine.takes_no_arguments_iff honest).mp takes)

end Attribute

namespace HostObject

section Getters

variable {getter : Routine Value} (host : HostObject Value) (name : String)

theorem property_run (accepted : Accepts getter.params 1) (store : Store) :
    (host.property name getter).run store =
      match getter.outcome with
      | .returns value => (.ok (.ofValue value), store)
      | .raises fault =>
          if fault.isAttributeFault then (.ok (host.fallbackAttribute name), store)
          else (.error fault, store)
      | .counts => (.ok (.value (.int (store.counter getter.cell + 1 : Nat))),
          store.setCounter getter.cell (store.counter getter.cell + 1)) := by
  have called : getter.call true 0 = getter.run := Routine.call_accepted accepted
  unfold property
  rw [Action.run_try_catch, Action.run_bind, called, getter.run_result]
  cases getter.outcome with
  | returns value => rfl
  | counts => rfl
  | raises fault => cases told : fault.isAttributeFault <;> simp [told] <;> rfl

theorem property_refused (refused : ¬ Accepts getter.params 1) (store : Store) :
    (host.property name getter).run store = (.error (.value .wrongType), store) := by
  have called : getter.call true 0 = throw (.value .wrongType) := Routine.call_refused refused
  unfold property
  rw [Action.run_try_catch, Action.run_bind, called]
  rfl

end Getters

variable {host : HostObject Value} {name : String}

/-- The name is that of a property, which gives this value. -/
def Computes (host : HostObject Value) (name : String) (value : Value) : Prop :=
  ∃ getter, host.members.lookup name = some (.property getter) ∧
    Accepts getter.params 1 ∧ getter.outcome = .returns value

/-- The name is that of a property, which reports that there is no such attribute. -/
def Disclaims (host : HostObject Value) (name : String) : Prop :=
  ∃ getter fault, host.members.lookup name = some (.property getter) ∧
    Accepts getter.params 1 ∧ getter.outcome = .raises fault ∧ fault.isAttributeFault = true

/-- The object has a routine under a name: one of its class, bound to the object or to the class or
to neither, one of its own, one that a property gives, or one to fall back on. -/
inductive Has (host : HostObject Value) (name : String) :
    Routine Value → (bound : Bool) → Prop where
  | method {routine : Routine Value} (free : host.own.lookup name = none)
      (found : host.members.lookup name = some (.plain (.routine routine))) :
      Has host name routine true
  | classLevel {routine : Routine Value} (free : host.own.lookup name = none)
      (found : host.members.lookup name = some (.classLevel routine)) : Has host name routine true
  | static {routine : Routine Value} (free : host.own.lookup name = none)
      (found : host.members.lookup name = some (.static routine)) : Has host name routine false
  | stored {routine : Routine Value}
      (first : ∀ getter, host.members.lookup name ≠ some (.property getter))
      (found : host.own.lookup name = some (.routine routine)) : Has host name routine false
  | computed {routine : Routine Value} (found : host.Computes name (.routine routine)) :
      Has host name routine false
  | last {routine : Routine Value}
      (nothing : host.members.lookup name = none ∧ host.own.lookup name = none ∨
        host.Disclaims name)
      (found : host.fallback.lookup name = some (.routine routine)) : Has host name routine false

theorem fallback_routine {routine : Routine Value}
    (found : host.fallback.lookup name = some (.routine routine)) :
    host.fallbackAttribute name = .routine routine false := by
  unfold fallbackAttribute
  rw [found]
  rfl

theorem Has.find_run {routine : Routine Value} {bound : Bool} (has : host.Has name routine bound)
    (store : Store) : (host.find name).run store = (.ok (.routine routine bound), store) := by
  unfold find
  cases has with
  | method free found | classLevel free found | static free found =>
      rw [found, free]
      rfl
  | stored first found =>
      split
      · next getter other => exact (first getter other).elim
      · rw [found]
        rfl
  | computed found =>
      obtain ⟨getter, found, accepts, outcome⟩ := found
      rw [found]
      dsimp only
      rw [property_run host name accepts, outcome]
      rfl
  | last nothing found =>
      rcases nothing with ⟨free, none⟩ | ⟨getter, fault, member, accepts, outcome, told⟩
      · rw [free, none, ← fallback_routine found]
        rfl
      · rw [member]
        dsimp only
        rw [property_run host name accepts, outcome, ← fallback_routine found]
        dsimp only
        rw [if_pos told]

theorem fallback_plain
    (none : ∀ routine, host.fallback.lookup name ≠ some (.routine routine)) :
    (host.fallbackAttribute name).Plain := by
  unfold fallbackAttribute
  split
  · next value found =>
      refine Attribute.of_value_plain fun routine same => none routine ?_
      rw [found, same]
  · trivial

/-- Nothing else that is found is a routine, and only a property can fail. -/
theorem find_without (none : ∀ routine bound, ¬ host.Has name routine bound) :
    Upholds (fun _ => ∃ getter, host.members.lookup name = some (.property getter))
      Attribute.Plain (host.find name) := by
  unfold find
  split
  · next getter found =>
      intro store
      by_cases accepts : Accepts getter.params 1
      · rw [property_run host name accepts]
        cases outcome : getter.outcome with
        | returns value =>
            refine Attribute.of_value_plain fun routine same => none routine false ?_
            exact .computed ⟨getter, found, accepts, by rw [outcome, same]⟩
        | counts => exact fun routine => nofun
        | raises fault =>
            dsimp only
            split
            · next told =>
                refine fallback_plain fun routine last => none routine false ?_
                exact .last (.inr ⟨getter, fault, found, accepts, outcome, told⟩) last
            · exact ⟨getter, found⟩
      · rw [property_refused host name accepts]
        exact ⟨getter, found⟩
  · next other =>
      split
      · next value found =>
          apply Upholds.of_pure
          refine Attribute.of_value_plain fun routine same => none routine false ?_
          exact .stored other (by rw [found, same])
      · next free =>
          split
          · next routine found => exact (none routine true (.method free found)).elim
          · next value others found =>
              exact .of_pure fun routine same => others routine same
          · next routine found => exact (none routine false (.static free found)).elim
          · next routine found => exact (none routine true (.classLevel free found)).elim
          · next plain others static classLevel =>
              apply Upholds.of_pure
              refine fallback_plain fun routine last =>
                none routine false (.last (.inl ⟨?_, free⟩) last)
              cases found : host.members.lookup name with
              | none => rfl
              | some member =>
                  cases member with
                  | plain value => exact (others value found).elim
                  | static routine => exact (static routine found).elim
                  | classLevel routine => exact (classLevel routine found).elim
                  | property getter => exact (other getter found).elim

end HostObject

namespace Value

variable {members : Value → String → Option Builtin} {value : Value} {name : String}

def Tangible (value : Value) : Prop := ∀ routine, value ≠ .routine routine

theorem no_routine {allowed : Fault → Prop} {action : Access Value}
    (tangible : Upholds allowed Tangible action) {routine : Routine Value}
    {store later : Store} : action.run store ≠ (.ok (.routine routine), later) := by
  intro same
  have result := tangible store
  rw [same] at result
  exact result routine rfl

section Objects

variable {host : HostObject Value} {routine : Routine Value} {bound : Bool}

theorem lookup_object (host : HostObject Value) (shown : isPublicName name = true) :
    (Value.object host).lookupIn members name = host.find name >>= Attribute.used := if_pos shown

section Having

variable (has : host.Has name routine bound) (honest : routine.claimed = none)
  (shown : isPublicName name = true)
include has honest shown

theorem lookup_accepted (accepted : Accepts routine.params bound.toNat) (store : Store) :
    ((Value.object host).lookupIn members name).run store = routine.run.run store := by
  rw [lookup_object _ shown, Action.run_bind_ok (has.find_run store),
    Attribute.used_accepted honest accepted]

theorem lookup_refused (refused : ¬ Accepts routine.params bound.toNat) (store : Store) :
    ((Value.object host).lookupIn members name).run store = (.ok .missing, store) := by
  rw [lookup_object _ shown, Action.run_bind_ok (has.find_run store),
    Attribute.used_refused honest refused]
  rfl

/-- A routine that fails when it is looked up has been called, and the fault is its own. -/
theorem lookup_fault {store later : Store} {fault : Fault}
    (failed : ((Value.object host).lookupIn members name).run store = (.error fault, later)) :
    Accepts routine.params bound.toNat ∧ routine.outcome = .raises fault := by
  by_cases accepted : Accepts routine.params bound.toNat
  · refine ⟨accepted, ?_⟩
    rw [lookup_accepted has honest shown accepted, routine.run_result] at failed
    split at failed
    · cases failed
    · next outcome =>
        cases failed
        exact outcome
    · cases failed
  · rw [lookup_refused has honest shown accepted] at failed
    cases failed

end Having

/-- An object that has no routine under a name gives none, and only a property can fail. -/
theorem object_without (shown : isPublicName name = true)
    (none : ∀ routine bound, ¬ host.Has name routine bound) :
    Upholds (fun _ => ∃ getter, host.members.lookup name = some (.property getter)) Tangible
      ((Value.object host).lookupIn members name) := by
  rw [lookup_object host shown]
  apply Upholds.of_bind (HostObject.find_without none)
  intro found plain
  cases found with
  | absent => exact fun _ => nofun
  | value found => exact .of_pure plain
  | routine callee bound => exact plain.elim

end Objects

def OfBuiltinType : Value → Prop
  | .missing | .null | .mapping _ _ | .object _ => False
  | _ => True

section Offering

variable (builtin : value.OfBuiltinType) (shown : isPublicName name = true)
include builtin shown

theorem lookup_offered : value.lookupIn members name =
    ((members value name).map Builtin.used).getD (pure .missing) := by
  cases value with
  | missing | null | mapping _ _ | object _ => exact builtin.elim
  | _ => exact if_pos shown

variable {params : List Param} {action : Access Value}
  (offers : members value name = some (.routine params action))
include offers

theorem offered_accepted (accepted : Accepts params 0) :
    value.lookupIn members name = action := by
  rw [lookup_offered builtin shown, offers]
  apply if_neg
  simpa [Param.spared_iff] using Accepts.nothing_iff.mp accepted

theorem offered_refused (refused : ¬ Accepts params 0) :
    value.lookupIn members name = pure .missing := by
  rw [lookup_offered builtin shown, offers]
  apply if_pos
  simpa [Accepts.nothing_iff, Param.spared_iff] using refused

end Offering

theorem tangible_regular : Regular Anything Tangible := ⟨fun _ => trivial, fun other _ _ => other⟩

theorem list_tangible (items : List Value) (cell : Nat) (other : name ≠ "pop") :
    Offers Anything Tangible (listMember? items cell name) := by
  have copies : Upholds Anything Tangible
      (do newList ((← get).held items cell) : Access Value) := fun _ _ => nofun
  unfold listMember?
  split
  · exact offers_calls (gives_reorder tangible_regular _ _)
  · exact offers_calls copies
  · exact (other rfl).elim
  · exact offers_calls (gives_reorder tangible_regular _ _)
  · exact offers_calls (gives_sorted tangible_regular _ _)
  · exact offers_needs tangible_regular _
  · exact offers_needs tangible_regular _
  · exact offers_needs tangible_regular _
  · exact offers_needs tangible_regular _
  · exact search_offers tangible_regular name

theorem last_of_items (items : List Value) (cell : Nat) :
    Upholds Anything (· ∈ items) (popLast items cell id) := by
  apply Upholds.of_get
  intro store
  dsimp only
  split
  · exact fun _ => trivial
  · next index _ =>
      apply Upholds.of_modify
      cases found : items[index]? with
      | none => exact fun _ => trivial
      | some item => exact .of_pure (List.mem_of_getElem? found)

/-- A value of a built-in type gives no routine but an item that is taken out of a list. -/
theorem lookup_without (builtin : value.OfBuiltinType) (shown : isPublicName name = true)
    {routine : Routine Value} {store later : Store}
    (found : (value.lookup name).run store = (.ok (.routine routine), later)) :
    ∃ items cell, value = .list items cell ∧ name = "pop" ∧ .routine routine ∈ items := by
  have offered (offers : Offers Anything Tangible (value.member? name)) : False := by
    have tangible := offers.used tangible_regular
    rw [← lookup_offered builtin shown] at tangible
    exact no_routine tangible found
  by_cases listed : ∃ items cell, value = .list items cell
  · obtain ⟨items, cell, rfl⟩ := listed
    by_cases pop : name = "pop"
    · subst pop
      have result := last_of_items items cell store
      have same : (popLast items cell id).run store = (.ok (.routine routine), later) := found
      rw [same] at result
      exact ⟨items, cell, rfl, rfl, result⟩
    · exact (offered (list_tangible items cell pop)).elim
  · have unlisted (items : List Value) (cell : Nat) (same : value = .list items cell) :
        ∀ item ∈ items, item.Tangible := (listed ⟨items, cell, same⟩).elim
    exact (offered (member_offers tangible_regular unlisted name)).elim

end Value

/-- A routine that a value has under a public name is called once if a call with nothing but the
receiver goes through, which is to say that all parameters that are left can do without an argument,
and what it returns or raises is what the name comes to. If such a call does not go through, the
name is missing and nothing has been called. So no fault is about arguments, and no routine is given
that has not been called. That goes for objects, where no routine claims to have other parameters
than it has, and for values of built-in types, whatever these offer; what they do offer gives no
routine but an item of a list. -/
theorem routines_are_called_just_if_they_can_be (members : Value → String → Option Builtin)
    (name : String) (shown : isPublicName name = true) :
    (∀ (host : HostObject Value) routine bound, host.Has name routine bound →
      routine.claimed = none →
      (Accepts routine.params bound.toNat ↔ ∃ left,
        Routine.remaining? routine.params bound = some left ∧ ∀ param ∈ left, param.Spared) ∧
      (Accepts routine.params bound.toNat → ∀ store,
        ((Value.object host).lookupIn members name).run store = routine.run.run store ∧
        ((Value.object host).lookupIn members name).run store =
          match routine.outcome with
          | .returns result => (.ok result, store)
          | .raises fault => (.error fault, store)
          | .counts => (.ok (.int (store.counter routine.cell + 1 : Nat)),
              store.setCounter routine.cell (store.counter routine.cell + 1))) ∧
      (¬ Accepts routine.params bound.toNat → ∀ store,
        ((Value.object host).lookupIn members name).run store = (.ok .missing, store)) ∧
      ∀ store later fault,
        ((Value.object host).lookupIn members name).run store = (.error fault, later) →
        Accepts routine.params bound.toNat ∧ routine.outcome = .raises fault) ∧
    (∀ value : Value, value.OfBuiltinType → ∀ params action,
      members value name = some (.routine params action) →
      (Accepts params 0 ↔ ∀ param ∈ params, param.Spared) ∧
      (Accepts params 0 → value.lookupIn members name = action) ∧
      (¬ Accepts params 0 → value.lookupIn members name = pure .missing)) ∧
    (∀ host : HostObject Value, (∀ routine bound, ¬ host.Has name routine bound) →
      ∀ store later,
      (∀ routine, ((Value.object host).lookupIn members name).run store ≠
        (.ok (.routine routine), later)) ∧
      ∀ fault, ((Value.object host).lookupIn members name).run store = (.error fault, later) →
        ∃ getter, host.members.lookup name = some (.property getter)) ∧
    ∀ value : Value, value.OfBuiltinType → ∀ store later routine,
      (value.lookup name).run store = (.ok (.routine routine), later) →
        ∃ items cell, value = .list items cell ∧ name = "pop" ∧ .routine routine ∈ items := by
  refine ⟨?_, ?_, ?_, ?_⟩
  · intro host routine bound has honest
    refine ⟨Routine.accepts_iff, ?_, Value.lookup_refused has honest shown, ?_⟩
    · intro accepted store
      have called := @Value.lookup_accepted members name host routine bound has honest shown
        accepted store
      exact ⟨called, called.trans (routine.run_result store)⟩
    · exact fun _ _ _ => Value.lookup_fault has honest shown
  · intro value builtin params action offers
    exact ⟨Accepts.nothing_iff, Value.offered_accepted builtin shown offers,
      Value.offered_refused builtin shown offers⟩
  · intro host none store later
    have without := @Value.object_without members name host shown none
    refine ⟨fun routine => Value.no_routine without, ?_⟩
    intro fault failed
    have result := without store
    rw [failed] at result
    exact result
  · exact fun value builtin store later routine => Value.lookup_without builtin shown

def HostObject.ofMethods (methods : List (String × Routine Value)) : HostObject Value where
  cell := 0
  own := []
  members := methods.map (Prod.map id fun routine => .plain (.routine routine))
  fallback := []
  items := none
  indexed := none
  length := none
  quoted := ""
  text := ""
  replacing := none

/-- Of two methods that count their calls, one can do with its receiver and one cannot; and of two
routines of a list one can do without arguments. -/
theorem one_method_of_two_is_called :
    let host := HostObject.ofMethods
      [("tick", ⟨0, [.required, .optional, .anyPositional, .optionalKeyword], .counts, none⟩),
        ("add", ⟨0, [.required, .anyKeyword, .requiredKeyword], .counts, none⟩)]
    ((Value.object host).lookup "tick").run .empty = (.ok (.int 1), ⟨#[], #[1]⟩) ∧
      ((Value.object host).lookup "add").run .empty = (.ok .missing, .empty) ∧
      (Value.list [] 0).lookup "pop" = popLast [] 0 id ∧
      (Value.list [] 0).lookup "insert" = pure .missing := by
  intro host
  have tick := routines_are_called_just_if_they_can_be Value.member? "tick" (by decide)
  have add := routines_are_called_just_if_they_can_be Value.member? "add" (by decide)
  have pop := routines_are_called_just_if_they_can_be Value.member? "pop" (by decide)
  have insert := routines_are_called_just_if_they_can_be Value.member? "insert" (by decide)
  refine ⟨((tick.1 host _ true (.method rfl rfl) rfl).2.1 ?_ .empty).2,
    (add.1 host _ true (.method rfl rfl) rfl).2.2.1 ?_ .empty,
    (pop.2.1 (.list [] 0) trivial _ _ rfl).2.1 ?_,
    (insert.2.1 (.list [] 0) trivial _ _ rfl).2.2 ?_⟩
  · exact .given rfl (.spared (.inr rfl) (.gathered 0 (.spared (.inr rfl) .done)))
  · rw [Routine.accepts_iff]
    rintro ⟨left, ⟨⟩, free⟩
    have spared := free .requiredKeyword (by decide)
    rw [Param.spared_iff] at spared
    cases spared
  · exact .spared (.inr rfl) .done
  · rw [Accepts.nothing_iff]
    intro free
    have spared := free .positional (by decide)
    rw [Param.spared_iff] at spared
    cases spared

end Mustache
