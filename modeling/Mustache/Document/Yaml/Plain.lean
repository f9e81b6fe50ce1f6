import Mustache.Document
import Mustache.Fault
import Mustache.Number.Reading
import Mustache.Text.Blank

/-!
What plain texts of a YAML document mean. Words stand for nothing and for the two truth values;
digits make whole numbers in several bases, numbers with a point, and dates; anything else is the
text itself. Underscores among digits mean nothing, and colons separate places of base sixty.
-/

namespace Mustache.Document.Yaml

set_option autoImplicit false

open Number

def isNullWord (word : String) : Bool := ["", "~", "null", "Null", "NULL"].contains word

def boolWord? (word : String) : Option Bool :=
  if ["yes", "Yes", "YES", "true", "True", "TRUE", "on", "On", "ON"].contains word then some true
  else if ["no", "No", "NO", "false", "False", "FALSE", "off", "Off", "OFF"].contains word then
    some false
  else none

def withoutUnderscores (digits : List Char) : List Char := digits.filter (· ≠ '_')

def inAlphabet (alphabet : String) (c : Char) : Bool := c = '_' || alphabet.contains c

def digitOf (c : Char) : Nat :=
  let c := c.toLower
  if isAsciiDigit c then c.toNat - 48 else c.toNat - 87

def inBase (base : Nat) (digits : List Char) : Nat :=
  digits.foldl (fun total c => base * total + digitOf c) 0

/-- A whole number from digits in some base; underscores alone are none. -/
def wholeInBase (base : Nat) (digits : List Char) : Except Fault Nat :=
  let digits := withoutUnderscores digits
  if digits.isEmpty then .error (.value .badNumeral)
  else if base = 10 && digits.length > 4300 then .error (.value .numeralTooLong)
  else .ok (inBase base digits)

/-- A place of base sixty: one digit, or two of which the first is below six. -/
def isSixtieth : List Char → Bool
  | [c] => isAsciiDigit c
  | [c, d] => '0' ≤ c && c ≤ '5' && isAsciiDigit d
  | _ => false

def sexagesimal? (body : List Char) : Option (List Char × List (List Char)) :=
  match Text.pieces (· = ':') body with
  | first :: place :: places =>
      if first.head?.any isAsciiDigit && first.all (inAlphabet "0123456789") &&
          (place :: places).all isSixtieth then
        some (first, place :: places)
      else none
  | _ => none

def ofPlaces (first : List Char) (places : List (List Char)) : Nat :=
  places.foldl (fun total place => 60 * total + inBase 10 place)
    (inBase 10 (withoutUnderscores first))

def wholeBody? (body : List Char) : Option (Except Fault Nat) :=
  match body with
  | ['0'] => some (.ok 0)
  | '0' :: 'b' :: c :: rest =>
      if (c :: rest).all (inAlphabet "01") then some (wholeInBase 2 (c :: rest)) else none
  | '0' :: 'x' :: c :: rest =>
      if (c :: rest).all (inAlphabet "0123456789abcdefABCDEF") then
        some (wholeInBase 16 (c :: rest))
      else none
  | '0' :: rest =>
      if rest.all (inAlphabet "01234567") then some (.ok (inBase 8 (withoutUnderscores rest)))
      else none
  | c :: rest =>
      if '1' ≤ c && c ≤ '9' then
        if rest.all (inAlphabet "0123456789") then some (wholeInBase 10 (c :: rest))
        else (sexagesimal? body).map fun (first, places) => .ok (ofPlaces first places)
      else none
  | [] => none

def whole? (word : List Char) : Option (Except Fault Int) :=
  let (negative, body) := takeSign word
  (wholeBody? body).map fun result =>
    result.map fun (n : Nat) => if negative then -(n : Int) else (n : Int)

/-- An exponent of a plain number has a sign. -/
def isExponent (rest : List Char) : Bool :=
  match rest with
  | [] => true
  | mark :: sign :: digit :: digits =>
      (mark = 'e' || mark = 'E') && (sign = '-' || sign = '+') &&
        (digit :: digits).all isAsciiDigit
  | _ => false

/-- Digits with a point among them or at their end, and perhaps an exponent. -/
def isPointed (body : List Char) : Bool :=
  let whole := body.takeWhile (inAlphabet "0123456789")
  match body.dropWhile (inAlphabet "0123456789") with
  | '.' :: rest =>
      whole.head?.any isAsciiDigit && isExponent (rest.dropWhile (inAlphabet "0123456789"))
  | _ => false

def isPointFirst (word : List Char) : Bool :=
  match word with
  | '.' :: c :: rest =>
      isAsciiDigit c && isExponent (rest.dropWhile (inAlphabet "0123456789"))
  | _ => false

def literal? (word : List Char) : Option Double :=
  (Decimal.read? (withoutUnderscores word)).map Double.ofLiteral

/-- Adds up numbers for the places of base sixty, the last one first. Every product and every sum
is rounded. -/
def addPlaces (places : List Double) : Double :=
  (places.foldl (fun (sum, unit) place => (sum.plus (place.times unit), 60 * unit))
    (Double.zero false, 1)).1

def pointedPlaces? (negative : Bool) (body : List Char) : Option Double :=
  let front := body.takeWhile (· ≠ '.')
  match body.dropWhile (· ≠ '.') with
  | '.' :: decimals =>
      if decimals.all (inAlphabet "0123456789") then
        (sexagesimal? front).map fun (first, more) =>
          let whole := fun (place : List Char) =>
            Double.ofDecimal false (inBase 10 (withoutUnderscores place)) 0
          let decimals := withoutUnderscores decimals
          let last := (first :: more).getLast?.getD []
          let pointed := Double.ofDecimal false (inBase 10 (last ++ decimals)) (-decimals.length)
          let sum := addPlaces (pointed :: ((first :: more).dropLast.reverse.map whole))
          if negative then sum.negate else sum
      else none
  | _ => none

def pointed? (word : List Char) : Option Double :=
  let (negative, body) := takeSign word
  if isPointed body || isPointFirst word then literal? word
  else if [".inf", ".Inf", ".INF"].contains (String.ofList body) then
    some (Double.infinity negative)
  else if [".nan", ".NaN", ".NAN"].contains (String.ofList word) then some Double.nan
  else pointedPlaces? negative body

def isLeapYear (year : Nat) : Bool := year % 4 = 0 && (year % 100 ≠ 0 || year % 400 = 0)

def monthLength (year month : Nat) : Nat :=
  match month with
  | 2 => if isLeapYear year then 29 else 28
  | 4 | 6 | 9 | 11 => 30
  | _ => 31

def isDate (year month day : Nat) : Bool :=
  1 ≤ year && 1 ≤ month && month ≤ 12 && 1 ≤ day && day ≤ monthLength year month

/-- A date of the form `2024-01-31`. -/
def date? (word : List Char) : Option (Except Fault Document) :=
  match Text.pieces (· = '-') word with
  | [year, month, day] =>
      if year.length = 4 && month.length = 2 && day.length = 2 &&
          (year ++ month ++ day).all isAsciiDigit then
        let year := inBase 10 year
        let month := inBase 10 month
        let day := inBase 10 day
        some (if isDate year month day then .ok (.date year month day)
          else .error (.value .badDate))
      else none
  | _ => none

def meaning (word : String) : Except Fault Document :=
  let chars := word.toList
  match boolWord? word, pointed? chars, whole? chars, date? chars with
  | some value, _, _, _ => .ok (.bool value)
  | none, some value, _, _ => .ok (.float value)
  | none, none, some result, _ => result.map .int
  | none, none, none, some result => result
  | none, none, none, none =>
      if isNullWord word then .ok .null
      else if word = "=" || word = "<<" then
        .error (.document (.constructing "could not determine a constructor"))
      else .ok (.text word)

end Mustache.Document.Yaml
