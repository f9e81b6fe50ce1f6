import Mustache.Command
import Std.Time.DateTime.Timestamp

/-!
The program: it takes a snapshot of the working directory, carries out its command line on that,
prints what the run printed and logged, and writes the files that the run changed.
-/

open Mustache

namespace Mustache

set_option autoImplicit false

/-- The calendar day, as year, month and day, by the days since the start of 1970. The year is
taken to begin in March, so that a leap day is its last one. -/
def calendarDay (days : Nat) : Nat × Nat × Nat :=
  let shifted := days + 719468
  let era := shifted / 146097
  let dayOfEra := shifted % 146097
  let yearOfEra := (dayOfEra - dayOfEra / 1460 + dayOfEra / 36524 - dayOfEra / 146096) / 365
  let dayOfYear := dayOfEra - (365 * yearOfEra + yearOfEra / 4 - yearOfEra / 100)
  let shiftedMonth := (5 * dayOfYear + 2) / 153
  let day := dayOfYear - (153 * shiftedMonth + 2) / 5 + 1
  let month := if shiftedMonth < 10 then shiftedMonth + 3 else shiftedMonth - 9
  let year := 400 * era + yearOfEra
  (if month ≤ 2 then year + 1 else year, month, day)

/-- A moment by the seconds since the start of 1970 and the millionths after them. -/
def Moment.ofSeconds (seconds micros : Nat) : Moment :=
  let (year, month, day) := calendarDay (seconds / 86400)
  let rest := seconds % 86400
  let timeOfDay :=
    padLeft 2 (rest / 3600) ++ ":" ++ padLeft 2 (rest / 60 % 60) ++ ":" ++ padLeft 2 (rest % 60)
  let fraction := if micros = 0 then "" else "." ++ padLeft 6 micros
  ⟨timeOfDay, writeDate year month day ++ "T" ++ timeOfDay ++ fraction ++ "+00:00"⟩

def now : IO Moment := do
  let elapsed := (← Std.Time.Timestamp.now).toDurationSinceUnixEpoch
  return .ofSeconds elapsed.second.val.toNat (elapsed.nano.val.toNat / 1000)

def depthLimit : Nat := 64

/-- Adds what is below a directory to a snapshot, but for what cannot be read. The directory is
given by its names below the working directory, which is at the given place. -/
partial def readBelow (current names : List String) (tree : FileTree) : IO FileTree := do
  let path := names.foldl (· / ·) (← IO.currentDir)
  let place := current ++ names
  if names.length < depthLimit && (← path.isDir) then
    let entries ← try path.readDir catch _ => pure #[]
    entries.foldlM (fun tree entry => readBelow current (names ++ [entry.fileName]) tree)
      (tree.put place .directory)
  else
    try return tree.put place (.file (← IO.FS.readBinFile path).toList) catch _ => return tree

def readSurroundings : IO Surroundings := do
  let current := (Path.read (← IO.currentDir).toString).parts
  let empty := match FileTree.empty.makeDirectories [] (.ofPlace current) with
    | .ok tree => tree
    | .error _ => FileTree.empty
  let files ← readBelow current [] empty
  return ⟨files, current, [], .standard⟩

/-- The variables that settings refer to are asked for one by one. -/
partial def runCommand (around : Surroundings) (arguments : List String) :
    IO Command.Outcome := do
  let outcome := Command.run around arguments
  let unset := outcome.progress.records.filterMap fun record =>
    match record.reason with
    | some (.settings (.unsetVariable name)) => some name
    | _ => none
  match unset with
  | [] => return outcome
  | name :: _ =>
      match ← IO.getEnv name with
      | none => return outcome
      | some value =>
          runCommand { around with environment := (name, value) :: around.environment } arguments

def writeChanges (before after : FileTree) : IO Unit :=
  after.entries.forM fun (place, entry) => do
    if before.get? place ≠ some entry then
      match entry with
      | .directory => IO.FS.createDirAll (placeText place)
      | .file content =>
          IO.FS.createDirAll (placeText place.dropLast)
          IO.FS.writeBinFile (placeText place) ⟨content.toArray⟩

end Mustache

def main (arguments : List String) : IO UInt32 := do
  let around ← readSurroundings
  let outcome ← runCommand around arguments
  writeChanges around.files outcome.progress.files
  IO.print outcome.progress.printed
  IO.eprint (outcome.logged (← now))
  match outcome.ending with
  | .stopped (.crashed fault) => IO.eprintln fault.message
  | .stopped .misuse => IO.eprintln "Wrong usage. Try --help."
  | _ => pure ()
  return UInt32.ofNat outcome.ending.status
