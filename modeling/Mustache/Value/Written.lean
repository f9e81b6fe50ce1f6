import Mustache.Number.Shortest
import Mustache.Text.Quoted
import Mustache.Text.Utf8
import Mustache.Value.Store

/-!
The text of values. A value shows its plain text where a template interpolates it and its quoted
form inside of a container. Only whole numbers of more than 4300 digits have no text.
-/

namespace Mustache

set_option autoImplicit false

open Number

def padLeft (width n : Nat) : String :=
  let digits := Nat.toDigits 10 n
  String.ofList (List.replicate (width - digits.length) '0' ++ digits)

def writeDate (year month day : Nat) : String :=
  padLeft 4 year ++ "-" ++ padLeft 2 month ++ "-" ++ padLeft 2 day

/-- A real part of positive zero is left out, and so are the zeros of whole parts. -/
def writeComplex (real imaginary : Double) : String :=
  let unit := imaginary.writeWith [] ++ ['j']
  if real.isZero && !real.negative then String.ofList unit
  else
    let sign := match unit with
      | '-' :: _ => []
      | _ => ['+']
    String.ofList ('(' :: real.writeWith [] ++ sign ++ unit ++ [')'])

def writeRange (start stop step : Int) : Except Fault String := do
  let start ← writeInt start
  let stop ← writeInt stop
  if step = 1 then return "range(" ++ start ++ ", " ++ stop ++ ")"
  else
    let step ← writeInt step
    return "range(" ++ start ++ ", " ++ stop ++ ", " ++ step ++ ")"

def enclose (opening closing : String) (items : List String) : String :=
  opening ++ ", ".intercalate items ++ closing

mutual
def Value.quoted (store : Store) : Value → Except Fault String
  | .missing => .ok "MISSING"
  | .null => .ok "None"
  | .bool value => .ok (if value then "True" else "False")
  | .int value => writeInt value
  | .float value _ => .ok value.toText
  | .decimal value _ => .ok ("Decimal('" ++ value.toText ++ "')")
  | .fraction numerator denominator => do
      let numerator ← writeInt numerator
      let denominator ← writeInt denominator
      return "Fraction(" ++ numerator ++ ", " ++ denominator ++ ")"
  | .complex real imaginary _ => .ok (writeComplex real imaginary)
  | .text content => .ok (Text.quote content)
  | .octets content => .ok (Text.quoteOctets content)
  | .buffer content cell =>
      .ok ("bytearray(" ++ Text.quoteMutableOctets (store.held content cell) ++ ")")
  | .date year month day =>
      .ok (enclose "datetime.date(" ")" [toString year, toString month, toString day])
  | .range start stop step => writeRange start stop step
  | .tuple items => do
      let items ← (quotedEach store items).mapM id
      return match items with
        | [item] => "(" ++ item ++ ",)"
        | items => enclose "(" ")" items
  | .set items => do
      let items ← (quotedEach store items).mapM id
      return if items.isEmpty then "set()" else enclose "\x7b" "\x7d" items
  | .list items cell => do
      let items ← (store.held (quotedEach store items) cell).mapM id
      return enclose "[" "]" items
  | .mapping form entries => do
      match form with
      | .custom => return "<mapping>"
      | .dictionary =>
          let entries ← (quotedEntries store entries).mapM id
          return enclose "\x7b" "\x7d" entries
      | .view =>
          let entries ← (quotedEntries store entries).mapM id
          return "mappingproxy(" ++ enclose "\x7b" "\x7d" entries ++ ")"
  | .stream _ _ _ => .ok "<iter>"
  | .array _ _ _ => .ok "<array>"
  | .routine _ => .ok "<function>"
  | .object host => .ok host.quoted
  termination_by structural value => value
def quotedEach (store : Store) : List Value → List (Except Fault String)
  | [] => []
  | item :: rest => item.quoted store :: quotedEach store rest
  termination_by structural items => items
def quotedEntries (store : Store) : List (Value × Value) → List (Except Fault String)
  | [] => []
  | (key, value) :: rest =>
      (do
        let key ← key.quoted store
        let value ← value.quoted store
        return key ++ ": " ++ value) :: quotedEntries store rest
  termination_by structural entries => entries
end

def Value.plain (store : Store) : Value → Except Fault String
  | .text content => .ok content
  | .decimal value _ => .ok value.toText
  | .fraction numerator denominator => do
      if denominator = 1 then writeInt numerator
      else
        let numerator ← writeInt numerator
        let denominator ← writeInt denominator
        return numerator ++ "/" ++ denominator
  | .date year month day => .ok (writeDate year month day)
  | .mapping .view entries => (Value.mapping .dictionary entries).quoted store
  | .object host => .ok host.text
  | value => value.quoted store

/-- What an interpolation writes: booleans in small letters and octets decoded, all else as its
plain text. -/
def Value.written (store : Store) : Value → Except Fault String
  | .bool value => .ok (if value then "true" else "false")
  | .octets content => .ok (Text.decodeLossy content)
  | .buffer content cell => .ok (Text.decodeLossy (store.held content cell))
  | value => value.plain store

/-- How the text of an object replaces characters, if it has a way of its own. -/
def Value.replacing? : Value → Option (Routine Value)
  | .object host => host.replacing
  | _ => none

end Mustache
