import Mathlib.Data.List.Basic
import Mustache.Log

/-!
What comes to be written over a whole run, in which the log is set up again and again. A message
counts against the level that holds when it is said. A report does not: once it is made it is
written, unless its own level is below zero. All that is written goes to the sink of the setup that
holds, each record once and in turn. A record that cannot be laid out, or that its stream does not
take, is lost whatever its level.
-/

namespace Mustache

set_option autoImplicit false

/-- A setup with a stream, and with a level from that of debugging on. Below there are levels that
stand for others. -/
structure Setup where
  layout : Layout
  level : Int
  stream : Outlet
  standard : Outlet
  counts : Log.debug ≤ level

def Setup.log (setup : Setup) : Log :=
  Log.setUp setup.layout setup.level (some setup.stream) setup.standard

def Setup.outlet (setup : Setup) : Outlet := Log.chosenOutlet setup.standard (some setup.stream)

def Setup.handler (setup : Setup) : Handler := ⟨setup.layout, setup.outlet.terminal, setup.outlet⟩

inductive LogCall where
  | setUp (setup : Setup)
  | message (moment : Moment) (level : Int) (text : String)
  | structured (moment : Moment) (level : Int) (text : String) (data : List (String × Document))
  | templateError (moment : Moment) (fault : Fault) (template : Option String)

namespace LogCall

def record? : LogCall → Option (Moment × LogRecord)
  | setUp _ => none
  | message moment level text => some (moment, ⟨level, text, none, []⟩)
  | structured moment level text data => some (moment, ⟨level, text, none, data⟩)
  | templateError moment fault template => some (moment, templateReport fault template)

def isReport : LogCall → Bool
  | setUp _ | message _ _ _ => false
  | structured _ _ _ _ | templateError _ _ _ => true

def setupAfter (setup : Setup) : LogCall → Setup
  | setUp next => next
  | _ => setup

/-- Each call with the setup that holds when it is made, which is the most recent one. -/
def underSetups : Setup → List LogCall → List (Setup × LogCall)
  | _, [] => []
  | setup, call :: calls => (setup, call) :: underSetups (call.setupAfter setup) calls

end LogCall

namespace Log

/-- The log after a call, with the lines that the call writes and the sink of each. -/
def perform (log : Log) : LogCall → Log × List (Nat × String)
  | .setUp setup => (setup.log, [])
  | .message moment level text => (log, log.message moment level text)
  | .structured moment level text data => (log, log.handle moment ⟨level, text, none, data⟩)
  | .templateError moment fault template => (log, log.handle moment (templateReport fault template))

def performAll : Log → List LogCall → List (Nat × String)
  | _, [] => []
  | log, call :: calls =>
      let (next, lines) := log.perform call
      lines ++ performAll next calls

end Log

namespace Setup

variable (setup : Setup)

def lineIf (counts : LogRecord → Prop) [DecidablePred counts] (call : LogCall) :
    List (Nat × String) :=
  match call.record? with
  | none => []
  | some (moment, record) =>
      if counts record then (setup.handler.emit moment record).toList else []

def due (call : LogCall) : List (Nat × String) := setup.lineIf (setup.level ≤ ·.level) call

/-- A report from level zero on that is not lost, though it is below the level of the setup. -/
def exempts (call : LogCall) : Bool :=
  match call.record? with
  | none => false
  | some (moment, record) => call.isReport && (setup.handler.emit moment record).isSome &&
      decide (0 ≤ record.level ∧ record.level < setup.level)

/-- What is written: what is due, and reports from level zero on. -/
def written (call : LogCall) : List (Nat × String) :=
  setup.lineIf (fun record =>
    setup.level ≤ record.level ∨ call.isReport = true ∧ 0 ≤ record.level) call

theorem level_positive : 0 < setup.level := Int.lt_of_lt_of_le (by decide) setup.counts

theorem handle_eq (moment : Moment) (record : LogRecord) :
    setup.log.handle moment record =
      if 0 ≤ record.level then (setup.handler.emit moment record).toList else [] := by
  have only : [setup.handler].filterMap (·.emit moment record) =
      (setup.handler.emit moment record).toList := by
    cases emitted : setup.handler.emit moment record <;> simp [emitted]
  simp only [log, Log.setUp, Log.handle, List.isEmpty_cons, Bool.false_eq_true, if_false]
  by_cases below : record.level < 0
  · rw [if_pos below, if_neg (by omega)]
  · rw [if_neg below, if_pos (by omega)]
    exact only

theorem passes_eq (level : Int) : setup.log.passes level = decide (setup.level ≤ level) := by
  have positive := setup.level_positive
  have other : setup.log.level ≠ 0 := by
    change setup.level ≠ 0
    omega
  have own : setup.log.passingLevel = setup.level := if_neg other
  rw [Log.passes, own]
  by_cases reached : setup.level ≤ level
  · have above : 0 < level := by omega
    simp [reached, above]
  · simp [reached]

theorem message_eq (moment : Moment) (level : Int) (text : String) :
    setup.log.message moment level text =
      if setup.level ≤ level then (setup.handler.emit moment ⟨level, text, none, []⟩).toList
      else [] := by
  have positive := setup.level_positive
  rw [Log.message, passes_eq, handle_eq]
  by_cases reached : setup.level ≤ level
  · have from_zero : 0 ≤ level := by omega
    simp [reached, from_zero]
  · simp [reached]

theorem perform_eq (call : LogCall) :
    setup.log.perform call = ((call.setupAfter setup).log, setup.written call) := by
  have positive := setup.level_positive
  have reported (moment : Moment) (record : LogRecord) : setup.log.handle moment record =
      if setup.level ≤ record.level ∨ true = true ∧ 0 ≤ record.level then
        (setup.handler.emit moment record).toList else [] := by
    rw [handle_eq]
    congr 1
    apply propext
    constructor
    · exact fun from_zero => .inr ⟨rfl, from_zero⟩
    · rintro (reached | ⟨_, from_zero⟩)
      · omega
      · exact from_zero
  cases call with
  | setUp next => rfl
  | message moment level text =>
      have own : setup.written (.message moment level text) =
          if setup.level ≤ level then
            (setup.handler.emit moment ⟨level, text, none, []⟩).toList else [] := by
        simp [written, lineIf, LogCall.record?, LogCall.isReport]
      rw [own, ← message_eq]
      rfl
  | structured moment level text data =>
      exact congrArg (setup.log, ·) (reported moment ⟨level, text, none, data⟩)
  | templateError moment fault template =>
      exact congrArg (setup.log, ·) (reported moment (templateReport fault template))

theorem written_length (call : LogCall) :
    (setup.written call).length = (setup.due call).length + (setup.exempts call).toNat := by
  have positive := setup.level_positive
  unfold written due lineIf exempts
  cases call.record? with
  | none => rfl
  | some logged =>
      obtain ⟨moment, record⟩ := logged
      dsimp only
      by_cases reached : setup.level ≤ record.level
      · simp [reached]
      · have below : record.level < setup.level := by omega
        cases call.isReport with
        | false => simp [reached]
        | true =>
            cases setup.handler.emit moment record <;>
              by_cases from_zero : 0 ≤ record.level <;> simp [reached, below, from_zero]

theorem written_due {call : LogCall} (bound : setup.exempts call = false) :
    setup.written call = setup.due call := by
  unfold exempts at bound
  unfold written due lineIf
  cases logged : call.record? with
  | none => rfl
  | some entry =>
      rw [logged] at bound
      obtain ⟨moment, record⟩ := entry
      dsimp only at bound ⊢
      cases emitted : setup.handler.emit moment record with
      | none => simp
      | some line =>
          congr 1
          apply propext
          constructor
          · rintro (reached | ⟨reports, from_zero⟩)
            · exact reached
            · simp only [reports, emitted, Option.isSome_some, Bool.true_and,
                decide_eq_false_iff_not] at bound
              omega
          · exact Or.inl

theorem perform_all_eq (calls : List LogCall) :
    setup.log.performAll calls =
      (LogCall.underSetups setup calls).flatMap fun entry => entry.1.written entry.2 := by
  induction calls generalizing setup with
  | nil => rfl
  | cons call calls induction =>
      rw [Log.performAll, perform_eq, LogCall.underSetups, List.flatMap_cons]
      exact congrArg _ (induction (call.setupAfter setup))

/-- Nothing but what is due is written just if no report is exempt. -/
theorem written_all_due_iff (entries : List (Setup × LogCall)) :
    (entries.flatMap fun entry => entry.1.written entry.2) =
        (entries.flatMap fun entry => entry.1.due entry.2) ↔
      ∀ entry ∈ entries, entry.1.exempts entry.2 = false := by
  have sizes : (entries.flatMap fun entry => entry.1.written entry.2).length =
      (entries.flatMap fun entry => entry.1.due entry.2).length +
        entries.countP fun entry => entry.1.exempts entry.2 := by
    induction entries with
    | nil => rfl
    | cons entry entries induction =>
        simp only [List.flatMap_cons, List.length_append, List.countP_cons, induction,
          written_length]
        cases entry.1.exempts entry.2 <;> simp <;> omega
  constructor
  · intro same
    rw [same] at sizes
    have none : (entries.countP fun entry => entry.1.exempts entry.2) = 0 := by omega
    simpa [List.countP_eq_zero] using none
  · intro bound
    exact List.flatMap_congr fun entry member => written_due _ (bound entry member)

end Setup

end Mustache
