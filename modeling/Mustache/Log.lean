import Mustache.Document
import Mustache.Template

/-!
The log of the command line. A record has a level, a message and perhaps further data, which only
the JSON layout shows. Messages below the level of the log are not recorded; reports, which carry
data, always are, unless the data cannot be written as JSON: a record that a handler cannot lay out,
or that its stream does not take, is lost. Setting up the log replaces its level and its only
handler.
-/

namespace Mustache

set_option autoImplicit false

/-- How records are laid out: with a label, with a label and the time of day, or as JSON. -/
inductive Layout where
  | labelled
  | timed
  | json
  deriving DecidableEq, Repr

/-- The present, as the time of day and as a full timestamp. -/
structure Moment where
  timeOfDay : String
  timestamp : String
  deriving DecidableEq, Repr

/-- `reason` is a fault that the message ends with. -/
structure LogRecord where
  level : Int
  message : String
  reason : Option Fault
  data : List (String × Document)

/-- A stream that lines go to, as far as it takes them. One that does not count as true is as good
as none where a log is set up. -/
structure Outlet where
  sink : Nat
  truth : Bool
  terminal : Bool
  takes : String → Bool

structure Handler where
  layout : Layout
  coloured : Bool
  outlet : Outlet

/-- Level zero is none of its own: the log then lets pass what an untouched one does. -/
structure Log where
  level : Int
  handlers : List Handler

namespace Log

def debug : Int := 10

def info : Int := 20

def warning : Int := 30

def error : Int := 40

def critical : Int := 50

def levelName (level : Int) : String :=
  if level = 0 then "NOTSET"
  else if level = debug then "DEBUG"
  else if level = info then "INFO"
  else if level = warning then "WARNING"
  else if level = error then "ERROR"
  else if level = critical then "CRITICAL"
  else "Level " ++ toString level

def escapeCode (code : String) : String := String.singleton (Char.ofNat 27) ++ "[" ++ code ++ "m"

def resetCode : String := escapeCode "0"

def colour (level : Int) : String :=
  if level = debug then escapeCode "90"
  else if level = info then escapeCode "32"
  else if level = warning then escapeCode "33"
  else if level = error || level = critical then escapeCode "31"
  else resetCode

end Log

def LogRecord.text (record : LogRecord) : String :=
  match record.reason with
  | none => record.message
  | some fault => record.message ++ ": " ++ fault.message

/-- The data of a record goes over its level, time and message where a name is the same. -/
def LogRecord.fields (record : LogRecord) (moment : Moment) : List (String × Document) :=
  record.data.foldl (fun fields field => Document.putText fields field.1 field.2)
    [("level", .text (Log.levelName record.level)), ("ts", .text moment.timestamp),
      ("msg", .text record.text)]

def Handler.label (handler : Handler) (moment : Moment) (level : Int) : String :=
  let name := "[" ++ Log.levelName level ++ "]"
  let label := if handler.coloured then Log.colour level ++ name ++ Log.resetCode else name
  if handler.layout = .timed then label ++ "[" ++ moment.timeOfDay ++ "]" else label

def Handler.line (handler : Handler) (moment : Moment) (record : LogRecord) :
    Except Fault String :=
  match handler.layout with
  | .json => do return (← Document.Json.write (Document.ofFields (record.fields moment))) ++ "\n"
  | _ => .ok (handler.label moment record.level ++ " " ++ record.text ++ "\n")

/-- The line of a record and the sink that it is written to, unless the record is lost. -/
def Handler.emit (handler : Handler) (moment : Moment) (record : LogRecord) :
    Option (Nat × String) :=
  match handler.line moment record with
  | .ok line => if handler.outlet.takes line then some (handler.outlet.sink, line) else none
  | .error _ => none

namespace Log

def untouched : Log := ⟨0, []⟩

def errorSink : Nat := 0

def standardOutlet (terminal : Bool) : Outlet := ⟨errorSink, true, terminal, fun _ => true⟩

def chosenOutlet (standard : Outlet) : Option Outlet → Outlet
  | some outlet => if outlet.truth then outlet else standard
  | none => standard

def setUp (layout : Layout) (level : Int) (given : Option Outlet) (standard : Outlet) : Log :=
  let outlet := chosenOutlet standard given
  ⟨level, [⟨layout, outlet.terminal, outlet⟩]⟩

def ofFlags (verbose quiet machine : Bool) (standard : Outlet) : Log :=
  let layout := if machine then Layout.json else if verbose then .timed else .labelled
  let level := if quiet then warning else if verbose then debug else info
  setUp layout level none standard

/-- Names with dots are those of parts, whose messages go to the whole. -/
def ownName : String := "whisker"

def named (log : Log) (name : String) : Log :=
  if name = ownName || name.startsWith (ownName ++ ".") then log else untouched

def passingLevel (log : Log) : Int := if log.level = 0 then warning else log.level

def passes (log : Log) (level : Int) : Bool := 0 < level && log.passingLevel ≤ level

/-- The lines that a record is written as, each with its sink. Handlers leave out what is below
level zero. Without a handler the bare text is written, from warnings on. -/
def handle (log : Log) (moment : Moment) (record : LogRecord) : List (Nat × String) :=
  if log.handlers.isEmpty then
    if warning ≤ record.level then [(errorSink, record.text ++ "\n")] else []
  else if record.level < 0 then []
  else log.handlers.filterMap (·.emit moment record)

/-- The lines of a message, which only count from the level of the log on. -/
def message (log : Log) (moment : Moment) (level : Int) (text : String) : List (Nat × String) :=
  if log.passes level then log.handle moment ⟨level, text, none, []⟩ else []

end Log

def Fault.kindName : Fault → String
  | .parse _ => "ParseError"
  | .load _ _ | .unloadable _ _ => "TemplateLoadError"
  | .missingVariable _ _ => "MissingVariableError"
  | _ => "WhiskerError"

def Fault.line? : Fault → Option Int
  | .parse error => error.line
  | .missingVariable _ line => some line
  | _ => none

def Fault.partialName? : Fault → Option String
  | .load _ name => name
  | .unloadable name _ => some name
  | _ => none

def dataField {α : Type} (name : String) (make : α → Document) (value : Option α) :
    List (String × Document) :=
  (value.map fun value => (name, make value)).toList

def templateReport (fault : Fault) (template : Option String) : LogRecord where
  level := Log.error
  message :=
    (match template with
      | none | some "" => fault.message
      | some name => name ++ ": " ++ fault.message)
  reason := none
  data :=
    ("error", .text fault.kindName) :: dataField "template" .text template ++
      dataField "line" .int fault.line? ++
      dataField "partial" .text fault.partialName?

def Event.note? : Event → Option String
  | .noted message => some message
  | .compiling name => some ("Compiling partial " ++ name)
  | .compiled segments =>
      some ("Compiled template (" ++ toString segments ++ " top-level segments)")
  | .asked _ | .opened _ | .closed _ => none

def Journal.notes (journal : Journal) : List String := journal.filterMap Event.note?

end Mustache
