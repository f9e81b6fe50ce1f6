/-!
Merging two neighbouring runs, each sorted, with a comparison that may fail. The shorter run is
set aside and merged back from the end that it is set aside for: the first run forwards, the second
one backwards. Items are taken one by one until one run has supplied several in a row; from then on
the row that comes next is searched for, as long as the rows found are long enough to pay. The
search strides on from a hint, doubling, and then halves; which places it probes shows only if the
comparison is no order, or fails.

No item is ever lost: what a merge that fails leaves is the items in some order.
-/

namespace Mustache.Sort

set_option autoImplicit false

variable {ε : Type}

/-- Halves the places from `low` to `high`; all before `low` pass. -/
def bisect (passes : Nat → Except ε Bool) : (fuel low high : Nat) → Except ε Nat
  | 0, low, _ => .ok low
  | fuel + 1, low, high =>
      if low < high then do
        let middle := low + (high - low) / 2
        if ← passes middle then bisect passes fuel (middle + 1) high
        else bisect passes fuel low middle
      else .ok low

/-- Strides on as long as the test holds, but not beyond the limit. The result is the last stride
that passed and the one that did not. -/
def stride (passes : Nat → Except ε Bool) (limit : Nat) :
    (fuel last next : Nat) → Except ε (Nat × Nat)
  | 0, last, next => .ok (last, min next limit)
  | fuel + 1, last, next =>
      if next < limit then do
        if ← passes next then stride passes limit fuel next (2 * next + 1)
        else return (last, next)
      else .ok (last, limit)

/-- The length of the front on which the test holds, searched for around a hint. -/
def gallop (passes : Nat → Except ε Bool) (size hint : Nat) : Except ε Nat := do
  if ← passes hint then
    let (last, next) ← stride (fun step => passes (hint + step)) (size - hint) size 0 1
    bisect passes size (hint + last + 1) (hint + next)
  else
    let fails := fun (step : Nat) => do return !(← passes (hint - step))
    let (last, next) ← stride fails (hint + 1) size 0 1
    bisect passes size (hint + 1 - next) (hint - last)

variable {α ε : Type}

def longRow : Nat := 7

/-- What merging two runs comes to. `patience` is how long a row must be to search for rows. -/
structure Merged (α ε : Type) where
  items : List α
  patience : Nat
  failure : Option ε

/-- A merge in the middle: what is done, latest first, and what is left of both runs, from the end
that is merged next. `wins` says whether an item of the longer run comes before one of the shorter
run. -/
structure Merge (α ε : Type) where
  wins : α → α → Except ε Bool
  forward : Bool
  done : List α
  short : List α
  long : List α
  patience : Nat

namespace Merge

/-- What a merge does next, unless it ends there. -/
abbrev Step (α ε : Type) := Except (Merged α ε)

def arrange (merge : Merge α ε) (left : List α) : List α :=
  let items := merge.done.reverse ++ left
  if merge.forward then items else items.reverse

def finish (merge : Merge α ε) (left : List α) (failure : Option ε) : Merged α ε :=
  ⟨merge.arrange left, merge.patience, failure⟩

/-- Ends a merge with the shorter run in front of the longer one. -/
def settle (merge : Merge α ε) (failure : Option ε) : Merged α ε :=
  merge.finish (merge.short ++ merge.long) failure

def ask {β : Type} (merge : Merge α ε) : Except ε β → Step α ε β
  | .ok answer => .ok answer
  | .error failure => .error (merge.settle (some failure))

/-- Takes items of the longer run. When none are left, the rest is in order. -/
def takeLong (merge : Merge α ε) (count : Nat) : Step α ε (Merge α ε) :=
  let taken := (merge.long.take count).reverse
  let next := { merge with done := taken ++ merge.done, long := merge.long.drop count }
  if next.long.isEmpty then .error (next.settle none) else .ok next

/-- Takes items of the shorter run. The last one of them belongs behind all of the longer run. -/
def takeShort (merge : Merge α ε) (count : Nat) : Step α ε (Merge α ε) :=
  let taken := (merge.short.take count).reverse
  let next := { merge with done := taken ++ merge.done, short := merge.short.drop count }
  match next.short with
  | [] => .error (next.settle none)
  | [last] => .error (next.finish (next.long ++ [last]) none)
  | _ => .ok next

def single : (fuel shortRow longRow : Nat) → Merge α ε → Step α ε (Merge α ε)
  | 0, _, _, merge => .ok merge
  | fuel + 1, shortRow, longRow, merge =>
      match merge.short, merge.long with
      | item :: _, other :: _ => do
          if ← merge.ask (merge.wins other item) then
            let next ← merge.takeLong 1
            if longRow + 1 ≥ next.patience then return next
            else single fuel 0 (longRow + 1) next
          else
            let next ← merge.takeShort 1
            if shortRow + 1 ≥ next.patience then return next
            else single fuel (shortRow + 1) 0 next
      | _, _ => .ok merge

/-- The length of the row at the front for which a test on items holds. Backwards the row is
searched for by the places in the run itself. -/
def row (merge : Merge α ε) (test : α → Except ε Bool) (items : List α) : Except ε Nat :=
  let run := items.toArray
  let holds := fun (place : Nat) => match run[place]? with
    | some item => test item
    | none => .ok false
  let size := run.size
  if merge.forward then gallop holds size 0
  else do
    let before ← gallop (fun place => do return !(← holds (size - 1 - place))) size (size - 1)
    return size - before

/-- Takes the row of the shorter run that comes before the next item of the longer one. -/
def takeShortRow (merge : Merge α ε) : Step α ε (Nat × Merge α ε) :=
  match merge.long with
  | [] => .ok (0, merge)
  | other :: _ => do
      let count ← merge.ask
        (merge.row (fun item => do return !(← merge.wins other item)) merge.short)
      if count = 0 then return (0, merge) else return (count, ← merge.takeShort count)

/-- Takes the row of the longer run that comes before the next item of the shorter one. -/
def takeLongRow (merge : Merge α ε) : Step α ε (Nat × Merge α ε) :=
  match merge.short with
  | [] => .ok (0, merge)
  | item :: _ => do
      let count ← merge.ask (merge.row (fun other => merge.wins other item) merge.long)
      if count = 0 then return (0, merge) else return (count, ← merge.takeLong count)

/-- A row of either run, each followed by one item of the other run. The first row is one of the
run that comes first in the list. -/
def rows (merge : Merge α ε) : Step α ε (Nat × Nat × Merge α ε) := do
  if merge.forward then
    let (shortRow, merge) ← merge.takeShortRow
    let merge ← merge.takeLong 1
    let (longRow, merge) ← merge.takeLongRow
    let merge ← merge.takeShort 1
    return (shortRow, longRow, merge)
  else
    let (longRow, merge) ← merge.takeLongRow
    let merge ← merge.takeShort 1
    let (shortRow, merge) ← merge.takeShortRow
    let merge ← merge.takeLong 1
    return (shortRow, longRow, merge)

def search : (fuel : Nat) → Merge α ε → Step α ε (Merge α ε)
  | 0, merge => .ok merge
  | fuel + 1, merge => do
      let (short, long, next) ← { merge with patience := max 1 (merge.patience - 1) }.rows
      if short ≥ longRow || long ≥ longRow then search fuel next
      else return { next with patience := next.patience + 1 }

def rounds : (fuel : Nat) → Merge α ε → Step α ε (Merge α ε)
  | 0, merge => .ok merge
  | fuel + 1, merge => do
      let size := merge.short.length + merge.long.length
      let merge ← merge.single size 0 0
      let merge ← search size { merge with patience := merge.patience + 1 }
      rounds fuel merge

def run (merge : Merge α ε) : Merged α ε :=
  let steps : Step α ε (Merge α ε) := do
    let next ← merge.takeLong 1
    let next ← next.takeShort 0
    rounds (merge.short.length + merge.long.length) next
  match steps with
  | .ok merge => merge.settle none
  | .error merged => merged

end Merge

/-- Merges two runs. Items at either end that are in their places already are left out. -/
def mergeRuns (less : α → α → Except ε Bool) (patience : Nat) (first second : List α) :
    Merged α ε :=
  let unchanged := fun (failure : Option ε) => ⟨first ++ second, patience, failure⟩
  let before := fun (items : Array α) (test : α → Except ε Bool) (place : Nat) =>
    match items[place]? with
    | some item => test item
    | none => .ok false
  match second with
  | [] => unchanged none
  | head :: _ =>
      let early := gallop (before first.toArray fun item => do return !(← less head item))
        first.length 0
      match early with
      | .error failure => unchanged (some failure)
      | .ok early =>
          let left := first.drop early
          match left.getLast? with
          | none => unchanged none
          | some last =>
              match gallop (before second.toArray fun item => less item last) second.length
                  (second.length - 1) with
              | .error failure => unchanged (some failure)
              | .ok 0 => unchanged none
              | .ok count =>
                  let right := second.take count
                  let merge : Merge α ε :=
                    if left.length ≤ right.length then ⟨less, true, [], left, right, patience⟩
                    else
                      ⟨fun item other => less other item, false, [], right.reverse, left.reverse,
                        patience⟩
                  let merged := merge.run
                  { merged with items := first.take early ++ merged.items ++ second.drop count }

end Mustache.Sort
