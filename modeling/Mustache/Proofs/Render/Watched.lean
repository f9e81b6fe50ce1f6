import Mustache.Proofs.Render.Written
import Mustache.Proofs.Segment

/-!
Rendering that keeps an eye on interpolations. It does what rendering does, and besides notes each
interpolation where its name has been resolved, and whether there was anything. An action that is
tracked by a watched one does the same, up to the first sight that alarms it; there it gives up.
-/

namespace Mustache

set_option autoImplicit false

structure Sighting where
  name : String
  line : Nat
  missing : Bool
  deriving DecidableEq, Repr

abbrev Watch := Run (String × List Sighting)

def unwatched {α : Type} (action : Render α) : Watch α :=
  ExceptT.mk fun (store, written, seen) =>
    let (result, store, written) := action.run (store, written)
    (result, (store, written, seen))

def sight (sighting : Sighting) : Watch Unit :=
  modify fun (store, written, seen) => (store, written, seen ++ [sighting])

def Setting.interpolate (setting : Setting) (name : String) (escaped : Value) (line : Nat)
    (value : Value) : Render Unit := do
  match ← setting.shown name line value with
  | none => return
  | some text => Setting.writeShown escaped text

mutual
def watchSegment (setting : Setting) (scope : Scope) : Segment → Watch Unit
  | .text content => unwatched (write content)
  | .interpolation name escaped line => do
      let value ← unwatched (setting.resolve scope name)
      sight ⟨name, line, value.isMissing⟩
      unwatched (setting.interpolate name escaped line value)
  | .block false name _ body => do
      let value ← unwatched (setting.resolve scope name)
      match value.kind setting.registry with
      | .missing | .null => return
      | .sequence =>
          value.visit setting.registry fun (placed : Placed) =>
            watchSegments setting (scope.nest (.ofPlaced placed)) body
      | .boolean =>
          match value with
          | .bool true => watchSegments setting scope body
          | _ => return
      | _ => watchSegments setting (scope.nest (.plain value)) body
  | .block true name _ body => do
      let value ← unwatched (setting.resolve scope name)
      if ← liftAccess (value.isFalsy setting.registry) then watchSegments setting scope body
      else return
  | .included _ config body =>
      watchSegments ⟨config.options, setting.registry⟩ (.root scope.frame.data) body
  termination_by structural segment => segment
def watchSegments (setting : Setting) (scope : Scope) : List Segment → Watch Unit
  | [] => pure ()
  | segment :: rest => do
      watchSegment setting scope segment
      watchSegments setting scope rest
  termination_by structural segments => segments
end

/-- As long as nothing alarming is seen an action ends like the watched one. At the first alarming
sight it is ended by a fault, and what it has written so far the watched action writes, too. -/
def Tracks {α : Type} (alarming : Sighting → Bool) (action : Render α) (watched : Watch α) : Prop :=
  ∀ store written seen outcome later text all,
    watched.run (store, written, seen) = (outcome, later, text, all) →
    ∃ new, all = seen ++ new ∧ written.toList <+: text.toList ∧
      (new.find? alarming = none → action.run (store, written) = (outcome, later, text)) ∧
      ∀ sighting, new.find? alarming = some sighting → ∃ halted stopped,
        action.run (store, written) =
          (.error (.missingVariable sighting.name sighting.line), halted, stopped) ∧
        stopped.toList <+: text.toList

theorem anything_joinable : Joinable fun _ => True := ⟨trivial, fun _ _ => trivial⟩

namespace Tracks

variable {α β : Type} {alarming : Sighting → Bool}

/-- An action that adds to the text is tracked by itself. -/
theorem of_unwatched {action : Render α} (writes : Writes (fun _ => True) action) :
    Tracks alarming action (unwatched action) := by
  intro store written seen outcome later text all run
  obtain ⟨out, _, added⟩ := writes store written
  rcases alone : action.run (store, written) with ⟨result, between, middle⟩
  have same : (unwatched action).run (store, written, seen) = (result, between, middle, seen) := by
    change (match action.run (store, written) with
      | (result, store, written) => (result, (store, written, seen))) = _
    rw [alone]
  rw [alone] at added
  cases same.symm.trans run
  exact ⟨[], (List.append_nil _).symm, ⟨out, added.symm⟩, fun _ => rfl, nofun⟩

theorem of_access (access : Access α) : Tracks alarming (liftAccess access) (liftAccess access) :=
  of_unwatched (.of_access anything_joinable access)

theorem of_pure (value : α) : Tracks alarming (pure value) (pure value) :=
  of_unwatched (.of_pure anything_joinable value)

theorem of_bind {action : Render α} {watched : Watch α} {next : α → Render β} {next' : α → Watch β}
    (first : Tracks alarming action watched)
    (second : ∀ value, Tracks alarming (next value) (next' value)) :
    Tracks alarming (action >>= next) (watched >>= next') := by
  intro store written seen outcome later text all run
  rcases firstly : watched.run (store, written, seen) with ⟨result, between, middle, noted⟩
  obtain ⟨new, rfl, grown, calm, alarmed⟩ := first _ _ _ _ _ _ _ firstly
  rw [Action.run_bind, firstly] at run
  cases result with
  | error fault =>
      cases run
      refine ⟨new, rfl, grown, fun none => Action.run_bind_error (calm none), ?_⟩
      intro sighting seen
      obtain ⟨halted, stopped, broken, short⟩ := alarmed sighting seen
      exact ⟨halted, stopped, Action.run_bind_error broken, short⟩
  | ok value =>
      obtain ⟨more, rfl, further, calm', alarmed'⟩ := second value _ _ _ _ _ _ _ run
      refine ⟨new ++ more, List.append_assoc _ _ _, grown.trans further, ?_, ?_⟩
      · intro none
        rw [List.find?_append, Option.or_eq_none_iff] at none
        exact (Action.run_bind_ok (calm none.1)).trans (calm' none.2)
      · intro sighting found
        rw [List.find?_append, Option.or_eq_some_iff] at found
        rcases found with here | ⟨none, there⟩
        · obtain ⟨halted, stopped, broken, short⟩ := alarmed sighting here
          exact ⟨halted, stopped, Action.run_bind_error broken, short.trans further⟩
        · obtain ⟨halted, stopped, broken, short⟩ := alarmed' sighting there
          exact ⟨halted, stopped, (Action.run_bind_ok (calm none)).trans broken, short⟩

theorem of_get {next : Store × String → Render α}
    {next' : Store × String × List Sighting → Watch α}
    (each : ∀ store written seen,
      Tracks alarming (next (store, written)) (next' (store, written, seen))) :
    Tracks alarming (get >>= next) (get >>= next') := by
  intro store written seen outcome later text all run
  exact each store written seen store written seen outcome later text all run

theorem of_visit_from {visit : Placed → Render Unit} {visit' : Placed → Watch Unit}
    (each : ∀ placed, Tracks alarming (visit placed) (visit' placed)) (fuel index : Nat)
    (element : Value) (cursor : Cursor) :
    Tracks alarming (visitFrom visit fuel index element cursor)
      (visitFrom visit' fuel index element cursor) := by
  induction fuel generalizing index element cursor with
  | zero => exact of_pure ()
  | succ fuel induction =>
      apply of_bind (of_access _)
      intro following
      apply of_bind (each _)
      intro _
      cases following with
      | none => exact of_pure ()
      | some next => exact induction _ _ _

theorem of_visit {visit : Placed → Render Unit} {visit' : Placed → Watch Unit}
    (each : ∀ placed, Tracks alarming (visit placed) (visit' placed)) (registry : Registry)
    (value : Value) :
    Tracks alarming (value.visit registry visit) (value.visit registry visit') := by
  apply of_bind (of_access _)
  intro cursor
  apply of_get
  intro store written seen
  apply of_bind (of_access _)
  intro first
  cases first with
  | none => exact of_pure ()
  | some next => exact of_visit_from each _ _ _ _

end Tracks

section Segments

variable {alarming : Sighting → Bool} {config other : Config} {registry : Registry}

mutual
/-- Two renderings that differ at interpolations only differ there and nowhere else. -/
theorem segment_tracks (standards : config.options.standardsMode = other.options.standardsMode)
    (interpolates : ∀ name escaped line value,
      Tracks alarming (Setting.interpolate ⟨config.options, registry⟩ name escaped line value)
        (sight ⟨name, line, value.isMissing⟩ >>= fun _ =>
          unwatched (Setting.interpolate ⟨other.options, registry⟩ name escaped line value)))
    (segment : Segment) (scope : Scope) :
    Tracks alarming
      (renderSegment ⟨config.options, registry⟩ scope (segment.recast id fun _ => config))
      (watchSegment ⟨other.options, registry⟩ scope (segment.recast id fun _ => other)) := by
  have resolves (name : String) :
      Tracks alarming (Setting.resolve ⟨config.options, registry⟩ scope name)
        (unwatched (Setting.resolve ⟨other.options, registry⟩ scope name)) := by
    unfold Setting.resolve
    rw [standards]
    exact .of_access _
  match segment with
  | .text content => exact .of_unwatched (.of_write trivial)
  | .interpolation name escaped line =>
      exact .of_bind (resolves name) fun value => interpolates name escaped line value
  | .block inverted name line body =>
      have inner (scope : Scope) := segments_track standards interpolates body scope
      cases inverted with
      | false =>
          apply Tracks.of_bind (resolves name)
          intro value
          dsimp only
          cases value.kind registry with
          | missing => exact .of_pure ()
          | null => exact .of_pure ()
          | sequence => exact .of_visit (fun placed => inner _) _ _
          | boolean =>
              cases value with
              | bool flag =>
                  cases flag with
                  | true => exact inner scope
                  | false => exact .of_pure ()
              | _ => exact .of_pure ()
          | _ => exact inner _
      | true =>
          apply Tracks.of_bind (resolves name)
          intro value
          apply Tracks.of_bind (.of_access _)
          intro falsy
          cases falsy with
          | true => exact inner scope
          | false => exact .of_pure ()
  | .included name _ body => exact segments_track standards interpolates body _
  termination_by structural segment
theorem segments_track (standards : config.options.standardsMode = other.options.standardsMode)
    (interpolates : ∀ name escaped line value,
      Tracks alarming (Setting.interpolate ⟨config.options, registry⟩ name escaped line value)
        (sight ⟨name, line, value.isMissing⟩ >>= fun _ =>
          unwatched (Setting.interpolate ⟨other.options, registry⟩ name escaped line value)))
    (segments : List Segment) (scope : Scope) :
    Tracks alarming (renderSegments ⟨config.options, registry⟩ scope
        (Segment.reconfiguredAll config segments))
      (watchSegments ⟨other.options, registry⟩ scope
        (Segment.reconfiguredAll other segments)) := by
  match segments with
  | [] => exact .of_pure ()
  | segment :: rest =>
      apply Tracks.of_bind (segment_tracks standards interpolates segment scope)
      intro _
      exact segments_track standards interpolates rest scope
  termination_by structural segments
end

end Segments

end Mustache
