import Mustache.Proofs.Render.Locality
import Mustache.Proofs.Value.Repeated

/-!
Sections and inverted sections. Where one of them executes its body the other does not, provided
that the value of their name can be iterated over again: the first looks for elements, the second
may ask for the length. If nothing has side effects, then of a section and an inverted section of
the same name only one is to be seen in the output.
-/

namespace Mustache

set_option autoImplicit false

namespace Setting

variable {σ : Type}

def sectionOver (setting : Setting) (scope : Scope) (body : Scope → Run σ Unit) (value : Value) :
    Run σ Unit :=
  match value.kind setting.registry with
  | .missing | .null => return
  | .sequence =>
      value.visit setting.registry fun (placed : Placed) => body (scope.nest (.ofPlaced placed))
  | .boolean =>
      match value with
      | .bool true => body scope
      | _ => return
  | _ => body (scope.nest (.plain value))

def invertedOver (setting : Setting) (scope : Scope) (body : Scope → Run σ Unit) (value : Value) :
    Run σ Unit := do
  if ← liftAccess (value.isFalsy setting.registry) then body scope
  else return

/-- The scopes that a section opens over a value, which has these elements if it is a sequence. -/
def opened (setting : Setting) (scope : Scope) (value : Value) (items : List Value) :
    List Scope :=
  match value.kind setting.registry, value with
  | .missing, _ | .null, _ => []
  | .sequence, _ => (placeFrom 1 items).map fun placed => scope.nest (.ofPlaced placed)
  | .boolean, .bool true => [scope]
  | .boolean, _ => []
  | _, value => [scope.nest (.plain value)]

end Setting

theorem section_resolves (setting : Setting) (scope : Scope) (name : String) (line : Nat)
    (body : List Segment) :
    renderSegment setting scope (.block false name line body) =
      setting.resolve scope name >>=
        setting.sectionOver scope (renderSegments setting · body) := rfl

theorem inverted_resolves (setting : Setting) (scope : Scope) (name : String) (line : Nat)
    (body : List Segment) :
    renderSegment setting scope (.block true name line body) =
      setting.resolve scope name >>=
        setting.invertedOver scope (renderSegments setting · body) := rfl

/-- Whatever is registered, it never stands for what is not there or for a yes or no. -/
theorem kind_cases (registry : Registry) (value : Value) :
    value = .missing ∨ value = .null ∨ (∃ flag, value = .bool flag) ∨
      value.kind registry ∈ [Kind.sequence, .mapping, .object, .scalar] := by
  have registered (value : Value)
      (plain : value.builtinKind ∈ [Kind.sequence, .mapping, .object, .scalar]) :
      (if (registry.adapterFor? value).isSome then .sequence else value.builtinKind) ∈
        [Kind.sequence, .mapping, .object, .scalar] := by
    split
    · exact .head _
    · exact plain
  cases value with
  | missing => exact .inl rfl
  | null => exact .inr (.inl rfl)
  | bool flag => exact .inr (.inr (.inl ⟨flag, rfl⟩))
  | object host =>
      refine .inr (.inr (.inr (registered (.object host) ?_)))
      change (if host.items.isSome then Kind.sequence else .object) ∈ _
      split <;> decide
  | _ => exact .inr (.inr (.inr (registered _ (by simp [Value.builtinKind]))))

theorem kind_boolean {registry : Registry} {value : Value} (kind : value.kind registry = .boolean) :
    ∃ flag, value = .bool flag := by
  rcases kind_cases registry value with rfl | rfl | boolean | other
  · cases kind
  · cases kind
  · exact boolean
  · rw [kind] at other
    exact absurd other (by decide)

theorem section_run {σ : Type} {setting : Setting} {base store : Store} {value : Value}
    {items : List Value}
    (repeats : value.kind setting.registry = .sequence →
      value.Repeats setting.registry base.Extends True items)
    (grown : base.Extends store) (scope : Scope) {body : Scope → Run σ Unit}
    (quiet : ∀ inner ∈ setting.opened scope value items, Quiet base (body inner)) (rest : σ) :
    (setting.sectionOver scope body value).run (store, rest) =
      ((setting.opened scope value items).forM body).run (store, rest) := by
  have once (inner : Scope) :
      (body inner).run (store, rest) = ([inner].forM body).run (store, rest) := by
    change _ = (body inner >>= pure).run (store, rest)
    rw [bind_pure]
  unfold Setting.sectionOver Setting.opened
  unfold Setting.opened at quiet
  cases kind : value.kind setting.registry with
  | missing | null => rfl
  | sequence =>
      rw [kind] at quiet
      have each : ∀ placed ∈ placeFrom 1 items, Quiet base (body (scope.nest (.ofPlaced placed))) :=
        fun placed member => quiet _ (List.mem_map_of_mem member)
      rw [(repeats kind).visit_run each grown rest]
      simp only [List.forM_eq_forM, List.forM_map]
  | boolean =>
      obtain ⟨flag, rfl⟩ := kind_boolean kind
      cases flag with
      | true => exact once scope
      | false => rfl
  | _ => exact once (scope.nest (.plain value))

/-- An inverted section does its body where a section opens no scope. -/
theorem falsy_answers {setting : Setting} {steady : Store → Prop} {still : Prop} {value : Value}
    {items : List Value}
    (repeats : value.kind setting.registry = .sequence →
      value.Repeats setting.registry steady still items) (scope : Scope) :
    Answers steady still (value.isFalsy setting.registry)
      (setting.opened scope value items).isEmpty := by
  unfold Value.isFalsy Setting.opened
  cases kind : value.kind setting.registry with
  | missing | null => exact .of_pure true
  | sequence =>
      have same : ((placeFrom 1 items).map fun placed => scope.nest (.ofPlaced placed)).isEmpty =
          items.isEmpty := by cases items <;> rfl
      dsimp only
      rw [same]
      exact (repeats kind).empty_answers
  | boolean =>
      obtain ⟨flag, rfl⟩ := kind_boolean kind
      cases flag <;> exact .of_pure _
  | _ => exact .of_pure false

def noting (body : Scope → Render Unit) (scope : Scope) : Run (String × List Scope) Unit :=
  ExceptT.mk fun (store, written, seen) =>
    let (result, store, written) := (body scope).run (store, written)
    (result, (store, written, seen ++ [scope]))

def Recalls {α : Type} (action : Run (String × List Scope) α) : Prop :=
  ∀ state, state.2.2 <+: (action.run state).2.2.2

namespace Recalls

variable {α β : Type} {body : Scope → Render Unit}

theorem of_noting (scope : Scope) : Recalls (noting body scope) :=
  fun _ => List.prefix_append _ _

theorem of_access (action : Access α) : Recalls (liftAccess action) := fun _ => List.prefix_rfl

theorem of_bind {action : Run (String × List Scope) α} {next : α → Run (String × List Scope) β}
    (first : Recalls action) (second : ∀ value, Recalls (next value)) :
    Recalls (action >>= next) := by
  intro state
  have noted := first state
  rw [Action.run_bind]
  rcases run : action.run state with ⟨outcome, later⟩
  rw [run] at noted
  cases outcome with
  | error fault => exact noted
  | ok value => exact noted.trans (second value later)

theorem of_visit_from (scope : Scope) (fuel index : Nat) (element : Value) (cursor : Cursor) :
    Recalls (visitFrom (fun placed => noting body (scope.nest (.ofPlaced placed))) fuel index
      element cursor) := by
  induction fuel generalizing index element cursor with
  | zero => exact fun _ => List.prefix_rfl
  | succ fuel induction =>
      apply of_bind (of_access cursor.next)
      intro following
      apply of_bind (of_noting _)
      intro _
      cases following with
      | none => exact fun _ => List.prefix_rfl
      | some next => exact induction _ _ _

end Recalls

theorem noting_executes {body : Scope → Render Unit} {scope : Scope}
    {next : Unit → Run (String × List Scope) Unit} (recalls : ∀ value, Recalls (next value))
    (store : Store) (written : String) :
    ((noting body scope >>= next).run (store, written, [])).2.2.2 ≠ [] := by
  rw [Action.run_bind]
  have noted : ((noting body scope).run (store, written, [])).2.2.2 = [scope] := rfl
  rcases run : (noting body scope).run (store, written, []) with ⟨outcome, later, text, seen⟩
  rw [run] at noted
  obtain rfl : seen = [scope] := noted
  cases outcome with
  | error fault => exact List.cons_ne_nil _ _
  | ok value =>
      intro empty
      have kept : [scope] <+: _ := recalls value (later, text, [scope])
      dsimp only at empty
      rw [empty] at kept
      exact List.cons_ne_nil _ _ (List.prefix_nil.mp kept)

section Executing

variable {setting : Setting} {steady : Store → Prop} {still : Prop} {store : Store} {value : Value}
  {items : List Value}
  (repeats : value.kind setting.registry = .sequence →
    value.Repeats setting.registry steady still items)
  (start : steady store) (scope : Scope)
include repeats start

theorem section_executes (body : Scope → Render Unit) (written : String) :
    ((setting.sectionOver scope (noting body) value).run (store, written, [])).2.2.2 = [] ↔
      setting.opened scope value items = [] := by
  unfold Setting.sectionOver Setting.opened
  cases kind : value.kind setting.registry with
  | missing | null => exact iff_of_true rfl rfl
  | sequence =>
      obtain ⟨cursor, starts, yields⟩ := (repeats kind).elements
      obtain ⟨between, begins, steady', _⟩ := starts store start
      dsimp only
      cases yields with
      | done ends =>
          obtain ⟨later, reads, _⟩ := ends between steady'
          rw [visit_first begins _ reads]
          exact iff_of_true rfl rfl
      | more gives others =>
          obtain ⟨later, reads, steady'', _⟩ := gives between steady'
          obtain ⟨fuel, bound⟩ :=
            Nat.exists_eq_succ_of_ne_zero (Nat.ne_of_gt (Cursor.bound_pos reads))
          -- What follows the first element is read before the body is executed.
          obtain ⟨following, answers⟩ := others.reads
          obtain ⟨last, further, _⟩ := answers later steady''
          rw [visit_first begins _ reads]
          dsimp only
          rw [bound, visitFrom, Action.run_bind, run_lift_access, further]
          refine iff_of_false (noting_executes ?_ last written) (List.cons_ne_nil _ _)
          intro _
          cases following with
          | none => exact fun _ => List.prefix_rfl
          | some next => exact .of_visit_from scope _ _ _ _
  | boolean =>
      obtain ⟨flag, rfl⟩ := kind_boolean kind
      cases flag with
      | true => exact iff_of_false (List.cons_ne_nil _ _) (List.cons_ne_nil _ _)
      | false => exact iff_of_true rfl rfl
  | _ => exact iff_of_false (List.cons_ne_nil _ _) (List.cons_ne_nil _ _)

theorem inverted_executes (body : Scope → Render Unit) (written : String) :
    ((setting.invertedOver scope (noting body) value).run (store, written, [])).2.2.2 =
      if setting.opened scope value items = [] then [scope] else [] := by
  obtain ⟨later, run, _⟩ := falsy_answers repeats scope store start
  unfold Setting.invertedOver
  rw [Action.run_bind, run_lift_access, run]
  cases setting.opened scope value items <;> rfl

end Executing

theorem Quiet.of_each {σ : Type} {base : Store} {body : Scope → Run σ Unit} {scopes : List Scope}
    (quiet : ∀ inner ∈ scopes, Quiet base (body inner)) : Quiet base (scopes.forM body) := by
  induction scopes with
  | nil => exact fun store _ _ => .refl store
  | cons first others induction =>
      intro store rest grown
      obtain ⟨quiet, further⟩ := List.forall_mem_cons.mp quiet
      have kept := quiet store rest grown
      change store.Extends ((body first >>= fun _ => others.forM body).run (store, rest)).2.1
      rw [Action.run_bind]
      rcases run : (body first).run (store, rest) with ⟨outcome, later, after⟩
      rw [run] at kept
      cases outcome with
      | error fault => exact kept
      | ok _ => exact kept.trans (induction further later after (grown.trans kept))

theorem resolve_run {setting : Setting} {scope : Scope} {name : String} {store stored : Store}
    {value : Value}
    (resolves : (scope.resolve setting.options.standardsMode name).run store = (.ok value, stored))
    (written : String) :
    (setting.resolve scope name).run (store, written) = (.ok value, stored, written) := by
  unfold Setting.resolve
  rw [run_lift_access, resolves]

section Both

variable {setting : Setting} {scope : Scope} {name : String} {body other : List Segment}
  (line line' : Nat) {view : View} {store stored : Store} {value : Value} {items : List Value}
  (keeps : setting.registry.KeepsTo view (· < store.orders.size) (· < store.counters.size))
  (framed : scope.Within view store) (options : setting.options.Each (Value.Within view store))
  (flags : Segment.EverywhereAll (Segment.Flag (Value.Within view store)) other)
  (resolves : (scope.resolve setting.options.standardsMode name).run store = (.ok value, stored))
  (grown : store.Extends stored)
  (repeats : value.kind setting.registry = .sequence →
    value.Repeats setting.registry stored.Extends True items)
include keeps framed options flags resolves grown repeats

theorem inverted_renders {later : Store} (grown' : store.Extends later) (written : String) :
    (Rendering.ofRun ((renderSegments setting scope [.block true name line' other]).run
        (later, written))).1 =
      if setting.opened scope value items = [] then
        (Rendering.ofRun ((renderSegments setting scope other).run (store, written))).1
      else ⟨written, none⟩ := by
  have alone : Segment.EverywhereAll (Segment.Flag (Value.Within view store))
      [.block true name line' other] := ⟨⟨trivial, flags⟩, trivial⟩
  rw [segments_local grown' keeps framed options alone]
  change (Rendering.ofRun ((renderSegment setting scope (.block true name line' other) >>=
    pure).run (store, written))).1 = _
  rw [bind_pure, inverted_resolves, Action.run_bind_ok (resolve_run resolves written)]
  unfold Setting.invertedOver
  rw [Action.run_bind, run_lift_access, (falsy_answers repeats scope).run_still (.refl stored)]
  by_cases none : setting.opened scope value items = []
  · rw [if_pos none, none]
    exact segments_local grown keeps framed options flags written
  · rw [if_neg none, List.isEmpty_eq_false_iff.mpr none]
    rfl

/-- If the section opens scopes, nothing else is to be seen of the two, and otherwise the inverted
section is all there is. -/
theorem both_render
    (quiet : ∀ inner ∈ setting.opened scope value items,
      Quiet stored (renderSegments setting inner body)) (written : String) :
    (Rendering.ofRun ((renderSegments setting scope
        [.block false name line body, .block true name line' other]).run (store, written))).1 =
      if setting.opened scope value items = [] then
        (Rendering.ofRun ((renderSegments setting scope other).run (store, written))).1
      else
        (Rendering.ofRun (((setting.opened scope value items).forM
          (renderSegments setting · body)).run (stored, written))).1 := by
  -- The name is resolved once more for the inverted section, with new cells behind those that the
  -- section has left.
  have inverted {later : Store} (further : stored.Extends later) (text : String) :=
    inverted_renders line' keeps framed options flags resolves grown repeats
      (grown.trans further) text
  have kept := Quiet.of_each quiet stored written (.refl stored)
  change (Rendering.ofRun ((renderSegment setting scope (.block false name line body) >>= fun _ =>
    renderSegments setting scope [.block true name line' other]).run (store, written))).1 = _
  rw [Action.run_bind, section_resolves, Action.run_bind_ok (resolve_run resolves written),
    section_run repeats (.refl stored) scope quiet]
  by_cases none : setting.opened scope value items = []
  · have written' := inverted (.refl stored) written
    rw [if_pos none] at written' ⊢
    rw [none]
    exact written'
  · rcases run : ((setting.opened scope value items).forM (renderSegments setting · body)).run
      (stored, written) with ⟨outcome, later, text⟩
    rw [run] at kept
    rw [if_neg none]
    cases outcome with
    | error fault => rfl
    | ok _ =>
        have written' := inverted kept text
        rw [if_neg none] at written'
        exact written'

end Both

theorem opened_eq_nil {setting : Setting} {scope : Scope} {value : Value} {items : List Value} :
    setting.opened scope value items = [] ↔ value = .missing ∨ value = .null ∨
      value = .bool false ∨ (value.kind setting.registry = .sequence ∧ items = []) := by
  rcases kind_cases setting.registry value with rfl | rfl | ⟨flag, rfl⟩ | other
  · simp [Setting.opened, Value.kind]
  · simp [Setting.opened, Value.kind]
  · cases flag <;> simp [Setting.opened, Value.kind]
  · have placed : placeFrom 1 items = [] ↔ items = [] := by cases items <;> simp [placeFrom]
    have there : value ≠ .missing ∧ value ≠ .null ∧ value ≠ .bool false := by
      refine ⟨?_, ?_, ?_⟩ <;> rintro rfl <;> simp [Value.kind] at other
    simp only [List.mem_cons, List.not_mem_nil, or_false] at other
    rcases other with kind | kind | kind | kind <;>
      simp [Setting.opened, kind, there, placed]

/-- A section executes its body for a value if and only if the inverted section does not, whatever
the bodies do and in whichever of the stores in which the value has the same elements. If nothing
has side effects, then a section before an inverted section of the same name leaves only its own
output, which is that of its body in each of the scopes opened, unless there is nothing to open a
scope for. -/
theorem sections_are_complementary (setting : Setting) (scope : Scope) (value : Value)
    (items : List Value) :
    let nothing : Prop := value = .missing ∨ value = .null ∨ value = .bool false ∨
      (value.kind setting.registry = .sequence ∧ items = [])
    (∀ (name : String) (line : Nat) (body : List Segment),
      renderSegment setting scope (.block false name line body) =
        setting.resolve scope name >>= setting.sectionOver scope (renderSegments setting · body) ∧
      renderSegment setting scope (.block true name line body) =
        setting.resolve scope name >>= setting.invertedOver scope (renderSegments setting · body)) ∧
    (∀ (steady : Store → Prop) (store store' : Store) (body body' : Scope → Render Unit)
      (written written' : String), steady store → steady store' →
      (value.kind setting.registry = .sequence →
        value.Repeats setting.registry steady False items) →
        let executed :=
          ((setting.sectionOver scope (noting body) value).run (store, written, [])).2.2.2
        let executed' :=
          ((setting.invertedOver scope (noting body') value).run (store', written', [])).2.2.2
        (executed = [] ↔ executed' = [scope]) ∧ (executed ≠ [] ↔ executed' = [])) ∧
    ∀ (name : String) (line line' : Nat) (body other : List Segment) (written : String)
      (view : View) (store stored : Store),
      setting.registry.KeepsTo view (· < store.orders.size) (· < store.counters.size) →
      scope.Within view store → setting.options.Each (Value.Within view store) →
      Segment.EverywhereAll (Segment.Flag (Value.Within view store)) other →
      (scope.resolve setting.options.standardsMode name).run store = (.ok value, stored) →
      store.Extends stored →
      (value.kind setting.registry = .sequence →
        value.Repeats setting.registry stored.Extends True items) →
      (∀ inner ∈ setting.opened scope value items,
        Quiet stored (renderSegments setting inner body)) →
        let both := (renderSegments setting scope
          [.block false name line body, .block true name line' other]).run (store, written)
        (nothing → (Rendering.ofRun both).1 =
          (Rendering.ofRun ((renderSegments setting scope other).run (store, written))).1) ∧
        (¬ nothing → (Rendering.ofRun both).1 =
          (Rendering.ofRun (((setting.opened scope value items).forM
            (renderSegments setting · body)).run (stored, written))).1) := by
  intro nothing
  refine ⟨fun name line body => ⟨section_resolves setting scope name line body,
    inverted_resolves setting scope name line body⟩, ?_, ?_⟩
  · intro steady store store' body body' written written' start start' repeats executed executed'
    have first : executed = [] ↔ setting.opened scope value items = [] :=
      section_executes repeats start scope body written
    have second : executed' = if setting.opened scope value items = [] then [scope] else [] :=
      inverted_executes repeats start' scope body' written'
    by_cases none : setting.opened scope value items = []
    · rw [if_pos none] at second
      simp [first, second, none]
    · rw [if_neg none] at second
      simp [first, second, none]
  · intro name line line' body other written view store stored keeps framed options flags resolves
      grown repeats quiet both
    have rendered := both_render line line' keeps framed options flags resolves grown
      repeats quiet written
    constructor
    · intro empty
      rwa [if_pos (opened_eq_nil.mpr empty)] at rendered
    · intro some
      rwa [if_neg (opened_eq_nil.not.mpr some)] at rendered

/-- A sequence of two elements: the body of the section is written twice, and nothing else. -/
theorem section_hides_inverted :
    let value : Value := .tuple [.bool true, .null]
    let data : Value := .mapping .dictionary [(.text "n", value)]
    let setting : Setting := ⟨.standard, .none⟩
    let noted (body : Scope → Run (String × List Scope) Unit) :=
      ((body (.root data)).run (.empty, "", [])).2.2.2
    let body : Scope → Render Unit := fun _ => write "a"
    noted (setting.sectionOver · (noting body) value) ≠ [] ∧
      noted (setting.invertedOver · (noting body) value) = [] ∧
      (Rendering.ofRun ((renderSegments setting (.root data)
        [.block false "n" 1 [.text "a"], .block true "n" 1 [.text "b"]]).run (.empty, ""))).1 =
          ⟨"aa", none⟩ := by
  intro value data setting noted body
  have repeats (steady : Store → Prop) (still : Prop) :
      value.Repeats .none steady still [.bool true, .null] :=
    Value.tuple_repeats steady still (by decide)
  have flag (flag : Bool) : (Value.bool flag).Within .whole .empty :=
    Value.within_of_leaf rfl rfl rfl
  have null : Value.null.Within .whole .empty := Value.within_of_leaf rfl rfl rfl
  have key : (Value.text "n").Within .whole .empty := Value.within_of_leaf rfl rfl rfl
  have parts {value : Value} (orders : value.orderCells = []) (counters : value.counterCells = [])
      (each : ∀ part ∈ value.exposed .whole, part.Within .whole .empty) :
      value.Within .whole .empty :=
    Value.within_of_parts (by simp [orders]) (by simp [counters]) each
  have framed : (Scope.root data).Within .whole .empty := by
    refine List.forall_mem_singleton.mpr (parts rfl rfl ?_)
    refine List.forall_mem_cons.mpr ⟨key, List.forall_mem_singleton.mpr (parts rfl rfl ?_)⟩
    exact List.forall_mem_cons.mpr ⟨flag true, List.forall_mem_singleton.mpr null⟩
  obtain ⟨_, executes, renders⟩ :=
    sections_are_complementary setting (.root data) value [.bool true, .null]
  have executed :=
    executes (· = .empty) .empty .empty body body "" "" rfl rfl fun _ => repeats _ False
  have unexecuted : noted (setting.invertedOver · (noting body) value) = [] := rfl
  refine ⟨executed.2.mpr unexecuted, unexecuted, ?_⟩
  refine ((renders "n" 1 1 [.text "a"] [.text "b"] "" .whole .empty .empty
    (Registry.none_keeps_to _ _ _) framed
    ⟨flag true, flag false, null, flag false⟩ ⟨trivial, trivial⟩ rfl (.refl _)
    (fun _ => repeats _ True) (fun _ _ store _ _ => .refl store)).2 ?_).trans rfl
  simp [value]

end Mustache
