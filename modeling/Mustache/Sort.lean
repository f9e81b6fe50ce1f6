import Mustache.Sort.Merge

/-!
Sorting with a comparison that may fail. The list is cut into runs that are in order already, or
in reverse order, and short ones are filled up by inserting what follows them; neighbouring runs
are merged in an order that keeps them balanced. Equal items keep their order.

A comparison that fails ends the sort. The items stay as they are at that moment: all of them, in
an order that depends on the comparisons made so far.
-/

namespace Mustache.Sort

set_option autoImplicit false

variable {α ε : Type}

/-- How many items continue a sorted front that ends with `last`: none of them before the one in
front of it or, if `falling`, each of them. -/
def runLength (less : α → α → Except ε Bool) (falling : Bool) : α → List α → Except ε Nat
  | _, [] => .ok 0
  | last, item :: rest => do
      let before ← less item last
      if before = falling then return (← runLength less falling item rest) + 1
      else return 0

/-- The run at the front: whether it falls, and how long it is. -/
def firstRun (less : α → α → Except ε Bool) : List α → Except ε (Bool × Nat)
  | first :: second :: rest => do
      let falling ← less second first
      return (falling, (← runLength less falling second rest) + 2)
  | items => .ok (false, items.length)

/-- Inserts items one after the other, each behind those that it equals. -/
def insertEach (less : α → α → Except ε Bool) : (sorted later : List α) → List α × Option ε
  | sorted, [] => (sorted, none)
  | sorted, item :: later =>
      let items := sorted.toArray
      let passes := fun (place : Nat) => match items[place]? with
        | some other => do return !(← less item other)
        | none => .ok false
      match bisect passes items.size 0 items.size with
      | .error failure => (sorted ++ item :: later, some failure)
      | .ok place => insertEach less (sorted.take place ++ item :: sorted.drop place) later

/-- The length that runs are filled up to: at least thirty-two, and such that the whole is a power
of two of them or a little less. -/
def fullLength : (fuel size carried : Nat) → Nat
  | 0, size, carried => size + carried
  | fuel + 1, size, carried =>
      if size < 64 then size + carried else fullLength fuel (size / 2) (max carried (size % 2))

/-- A sorted run: its items, where it starts, and the depth at which it is to be merged with the
run behind it. -/
structure Run (α : Type) where
  items : List α
  start : Nat
  depth : Nat

/-- The runs found so far, latest first, and the items that are not in one yet. -/
structure Pile (α : Type) where
  runs : List (Run α)
  rest : List α
  patience : Nat

def Pile.items (pile : Pile α) : List α := pile.runs.reverse.flatMap Run.items ++ pile.rest

abbrev Work (α ε : Type) := ExceptT ε (StateM (Pile α))

def orFail : Option ε → Work α ε Unit
  | none => pure ()
  | some failure => throw failure

/-- The depth of the boundary between two runs in the tree that halves the whole list: the first
binary place in which the middles of the two runs differ. Both middles come doubled. -/
def boundaryDepth (size : Nat) : (fuel middle next : Nat) → Nat
  | 0, _, _ => 0
  | fuel + 1, middle, next =>
      if size ≤ middle then boundaryDepth size fuel (2 * (middle - size)) (2 * (next - size)) + 1
      else if size ≤ next then 1
      else boundaryDepth size fuel (2 * middle) (2 * next) + 1

def joinRuns (less : α → α → Except ε Bool) (later : List (Run α)) (second first : Run α)
    (earlier : List (Run α)) : Work α ε Unit := do
  let pile ← get
  let merged := mergeRuns less pile.patience first.items second.items
  set { pile with
    runs := later ++ { first with items := merged.items } :: earlier
    patience := merged.patience }
  orFail merged.failure

def joinDeeper (less : α → α → Except ε Bool) (depth : Nat) : (fuel : Nat) → Work α ε Unit
  | 0 => pure ()
  | fuel + 1 => do
      match (← get).runs with
      | second :: first :: earlier =>
          if first.depth > depth then
            joinRuns less [] second first earlier
            joinDeeper less depth fuel
          else pure ()
      | _ => pure ()

def settleRuns (less : α → α → Except ε Bool) (size length : Nat) : Work α ε Unit := do
  match (← get).runs with
  | [] => pure ()
  | latest :: earlier =>
      let middle := 2 * latest.start + latest.items.length
      let depth := boundaryDepth size (size + 1) middle (middle + latest.items.length + length)
      joinDeeper less depth (earlier.length + 1)
      modify fun pile =>
        match pile.runs with
        | latest :: earlier => { pile with runs := { latest with depth := depth } :: earlier }
        | [] => pile

def takeRun (less : α → α → Except ε Bool) (size full : Nat) : Work α ε Unit := do
  let rest := (← get).rest
  let (falling, length) ← (firstRun less rest : Except ε (Bool × Nat))
  let front := if falling then (rest.take length).reverse else rest.take length
  let wanted := max length (min full rest.length)
  let (items, failure) := insertEach less front ((rest.take wanted).drop length)
  let start := size - rest.length
  modify fun pile => { pile with rest := items ++ rest.drop wanted }
  orFail failure
  settleRuns less size wanted
  modify fun pile =>
    { pile with runs := ⟨items, start, 0⟩ :: pile.runs, rest := rest.drop wanted }

def takeRuns (less : α → α → Except ε Bool) (size full : Nat) : (fuel : Nat) → Work α ε Unit
  | 0 => pure ()
  | fuel + 1 => do
      if (← get).rest.isEmpty then pure ()
      else
        takeRun less size full
        takeRuns less size full fuel

def joinAll (less : α → α → Except ε Bool) : (fuel : Nat) → Work α ε Unit
  | 0 => pure ()
  | fuel + 1 => do
      match (← get).runs with
      | third :: second :: first :: earlier =>
          if first.items.length < third.items.length then
            joinRuns less [third] second first earlier
          else joinRuns less [] third second (first :: earlier)
          joinAll less fuel
      | second :: first :: earlier => joinRuns less [] second first earlier
      | _ => pure ()

def sort (less : α → α → Except ε Bool) (items : List α) : List α × Option ε :=
  let size := items.length
  let work : Work α ε Unit := do
    takeRuns less size (fullLength size size 0) size
    joinAll less size
  match work.run ⟨[], items, longRow⟩ with
  | (.ok _, pile) => (pile.items, none)
  | (.error failure, pile) => (pile.items, some failure)

end Mustache.Sort
