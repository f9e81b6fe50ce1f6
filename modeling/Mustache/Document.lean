import Mustache.Fault
import Mustache.Number.Reading
import Mustache.Number.Shortest
import Mustache.Text.Quoted
import Mustache.Text.Utf8

/-!
Documents: what a data or settings file says, before it becomes a value. Mappings keep the order
in which they are written.

In JSON a document has blanks around it; numbers without point and exponent are exact, and of
entries with one key the last wins. The writer puts everything outside of ASCII as escapes, in
pairs where sixteen bits do not suffice.
-/

namespace Mustache

set_option autoImplicit false

open Number

inductive Document where
  | null
  | bool (value : Bool)
  | int (value : Int)
  | float (value : Double)
  | text (content : String)
  | date (year month day : Nat)
  | list (items : List Document)
  | mapping (entries : List (Document × Document))
  deriving Repr

instance : Inhabited Document := ⟨.null⟩

namespace Document

/-- Puts a value under a text, in the place of an earlier one. -/
def putText {α : Type} (entries : List (String × α)) (key : String) (value : α) :
    List (String × α) :=
  match entries with
  | [] => [(key, value)]
  | entry :: rest =>
      if entry.1 = key then (key, value) :: rest else entry :: putText rest key value

def ofFields (fields : List (String × Document)) : Document :=
  .mapping (fields.map fun field => (.text field.1, field.2))

end Document

end Mustache

namespace Mustache.Document.Json

open Number

def refuse {α : Type} (message : String) : Except DocumentFault α := .error (.json message)

def isJsonBlank (c : Char) : Bool := c = ' ' || c = '\t' || c = '\n' || c = '\r'

def skipBlanks (source : List Char) : List Char := source.dropWhile isJsonBlank

def hexValue? (c : Char) : Option Nat :=
  if '0' ≤ c && c ≤ '9' then some (c.toNat - 48)
  else if 'a' ≤ c && c ≤ 'f' then some (c.toNat - 87)
  else if 'A' ≤ c && c ≤ 'F' then some (c.toNat - 55)
  else none

def hexUnit? (digits : List Char) : Option Nat := do
  let digits ← digits.mapM hexValue?
  some (digits.foldl (fun total digit => 16 * total + digit) 0)

def simpleEscape? : Char → Option Nat
  | '"' => some 34
  | '\\' => some 92
  | '/' => some 47
  | 'b' => some 8
  | 'f' => some 12
  | 'n' => some 10
  | 'r' => some 13
  | 't' => some 9
  | _ => none

def readUnits : List Char → Except DocumentFault (List Nat × List Char)
  | [] => refuse "Unterminated string"
  | '"' :: rest => .ok ([], rest)
  | '\\' :: 'u' :: a :: b :: c :: d :: rest =>
      match hexUnit? [a, b, c, d] with
      | none => refuse "Invalid \\u escape"
      | some unit => do
          let (units, rest) ← readUnits rest
          return (unit :: units, rest)
  | '\\' :: c :: rest =>
      match simpleEscape? c with
      | none => refuse "Invalid escape"
      | some unit => do
          let (units, rest) ← readUnits rest
          return (unit :: units, rest)
  | c :: rest =>
      if c.toNat < 32 then refuse "Invalid control character"
      else do
        let (units, rest) ← readUnits rest
        return (c.toNat :: units, rest)

/-- A pair of surrogates is one character. -/
def joinUnits : List Nat → List Char
  | [] => []
  | high :: low :: rest =>
      if Text.isHighSurrogate high && Text.isLowSurrogate low then
        Char.ofNat (0x10000 + (high - 0xd800) * 0x400 + (low - 0xdc00)) :: joinUnits rest
      else Text.ofUnit high :: joinUnits (low :: rest)
  | [unit] => [Text.ofUnit unit]

def readString (source : List Char) : Except DocumentFault (String × List Char) := do
  let (units, rest) ← readUnits source
  return (String.ofList (joinUnits units), rest)

def takePlaces : List Char → List Char × List Char
  | '.' :: rest =>
      let (digits, after) := takeDigits rest
      if digits.isEmpty then ([], '.' :: rest) else (digits, after)
  | source => ([], source)

def takeExponent (source : List Char) : Option Int × List Char :=
  match source with
  | mark :: rest =>
      if mark = 'e' || mark = 'E' then
        let (negative, rest) := takeSign rest
        let (digits, after) := takeDigits rest
        if digits.isEmpty then (none, source)
        else
          let size : Int := digitsValue digits
          (some (if negative then -size else size), after)
      else (none, source)
  | [] => (none, [])

def numeralLimit : Nat := 4300

def readNumber (negative : Bool) (source : List Char) :
    Except DocumentFault (Document × List Char) :=
  let (digits, rest) := takeDigits source
  match digits with
  | [] => refuse "Expecting value"
  | first :: more =>
      let (whole, rest) :=
        if first = '0' then ([first], more ++ rest) else (digits, rest)
      let (places, rest) := takePlaces rest
      let (exponent, rest) := takeExponent rest
      if places.isEmpty && exponent.isNone then
        if whole.length > numeralLimit then refuse "number has too many digits to be read"
        else
          let size : Int := digitsValue whole
          .ok (.int (if negative then -size else size), rest)
      else
        let literal : Decimal :=
          ⟨negative, digitsValue (whole ++ places), exponent.getD 0 - places.length⟩
        .ok (.float (Double.ofLiteral literal), rest)

def readWord (source : List Char) : Option (Document × List Char) :=
  let words : List (String × Document) :=
    [("null", .null), ("true", .bool true), ("false", .bool false), ("NaN", .float Double.nan),
      ("Infinity", .float (Double.infinity false)), ("-Infinity", .float (Double.infinity true))]
  words.findSome? fun (word, document) =>
    if word.toList.isPrefixOf source then some (document, source.drop word.length) else none

def depthLimit : Nat := 975

mutual
def readValue : (fuel depth : Nat) → List Char → Except DocumentFault (Document × List Char)
  | 0, _, _ => refuse "Expecting value"
  | fuel + 1, depth, source =>
      match source with
      | '"' :: rest => do
          let (content, rest) ← readString rest
          return (.text content, rest)
      | '[' :: rest =>
          match depth, skipBlanks rest with
          | 0, _ => .error .tooDeep
          | _, ']' :: rest => .ok (.list [], rest)
          | depth + 1, rest => do
              let (items, rest) ← readItems fuel depth rest
              return (.list items, rest)
      | '{' :: rest =>
          match depth, skipBlanks rest with
          | 0, _ => .error .tooDeep
          | _, '}' :: rest => .ok (.mapping [], rest)
          | depth + 1, rest => do
              let (entries, rest) ← readEntries fuel depth [] rest
              return (ofFields entries, rest)
      | source =>
          match readWord source with
          | some result => .ok result
          | none =>
              match source with
              | '-' :: rest => readNumber true rest
              | source => readNumber false source
  termination_by structural fuel => fuel
def readItems : (fuel depth : Nat) → List Char →
    Except DocumentFault (List Document × List Char)
  | 0, _, _ => refuse "Expecting value"
  | fuel + 1, depth, source => do
      let (item, rest) ← readValue fuel depth source
      match skipBlanks rest with
      | ',' :: rest => do
          let (items, rest) ← readItems fuel depth (skipBlanks rest)
          return (item :: items, rest)
      | ']' :: rest => return ([item], rest)
      | _ => refuse "Expecting ',' delimiter"
  termination_by structural fuel => fuel
def readEntries : (fuel depth : Nat) → List (String × Document) → List Char →
    Except DocumentFault (List (String × Document) × List Char)
  | 0, _, _, _ => refuse "Expecting value"
  | fuel + 1, depth, earlier, source =>
      match source with
      | '"' :: rest => do
          let (key, rest) ← readString rest
          match skipBlanks rest with
          | ':' :: rest => do
              let (value, rest) ← readValue fuel depth (skipBlanks rest)
              let entries := putText earlier key value
              match skipBlanks rest with
              | ',' :: rest => readEntries fuel depth entries (skipBlanks rest)
              | '}' :: rest => return (entries, rest)
              | _ => refuse "Expecting ',' delimiter"
          | _ => refuse "Expecting ':' delimiter"
      | _ => refuse "Expecting property name enclosed in double quotes"
  termination_by structural fuel => fuel
end

/-- Reads a document; each character takes at most two steps. -/
def read (content : String) : Except DocumentFault Document := do
  let source := content.toList
  let (document, rest) ← readValue (2 * source.length + 2) depthLimit (skipBlanks source)
  if (skipBlanks rest).isEmpty then return document else refuse "Extra data"

def escapeUnit (n : Nat) : List Char := '\\' :: 'u' :: Text.hexDigits 4 n

def writeCharacter (c : Char) : List Char :=
  let n := c.toNat
  if c = '"' then ['\\', '"']
  else if c = '\\' then ['\\', '\\']
  else if c = '\n' then ['\\', 'n']
  else if c = '\r' then ['\\', 'r']
  else if c = '\t' then ['\\', 't']
  else if n = 12 then ['\\', 'f']
  else if n = 8 then ['\\', 'b']
  else if 32 ≤ n && n < 127 then [c]
  else if n < 0x10000 then escapeUnit n
  else match Text.surrogate? c with
    | some unit => escapeUnit unit
    | none =>
        escapeUnit (0xd800 + (n - 0x10000) / 0x400) ++ escapeUnit (0xdc00 + (n - 0x10000) % 0x400)

def writeText (content : String) : String :=
  String.ofList ('"' :: content.toList.flatMap writeCharacter ++ ['"'])

def writeFloat (x : Double) : String :=
  match x.view with
  | .nan => "NaN"
  | .infinite negative => if negative then "-Infinity" else "Infinity"
  | .finite _ _ _ => x.toText

mutual
/-- The text of a document. Dates have none, and neither have whole numbers that are too long. -/
def write : Document → Except Fault String
  | .null => .ok "null"
  | .bool value => .ok (if value then "true" else "false")
  | .int value => writeInt value
  | .float value => .ok (writeFloat value)
  | .text content => .ok (writeText content)
  | .date _ _ _ => .error (.value .wrongType)
  | .list items => do return "[" ++ ", ".intercalate (← writeItems items) ++ "]"
  | .mapping entries => do return "\x7b" ++ ", ".intercalate (← writeEntries entries) ++ "\x7d"
  termination_by structural document => document
def writeItems : List Document → Except Fault (List String)
  | [] => .ok []
  | item :: rest => do
      let first ← write item
      return first :: (← writeItems rest)
  termination_by structural items => items
/-- A key that is no text is written as the text that stands for it; what holds other documents is
no key. -/
def writeEntries : List (Document × Document) → Except Fault (List String)
  | [] => .ok []
  | (key, value) :: rest => do
      let name ← match key with
        | .text content => .ok content
        | .list _ | .mapping _ => .error (.value .wrongType)
        | key => write key
      let first ← write value
      return (writeText name ++ ": " ++ first) :: (← writeEntries rest)
  termination_by structural entries => entries
end

end Mustache.Document.Json
