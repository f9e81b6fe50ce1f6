import Mustache.Number.Double
import Mustache.Text.Blank
import Mustache.Unicode.Class

/-!
Numbers from text. A decimal literal is a sign, digits with perhaps a point among them, and
perhaps an exponent; single underscores may stand between digits.
-/

namespace Mustache.Number

set_option autoImplicit false

def isAsciiDigit (c : Char) : Bool := '0' ≤ c && c ≤ '9'

def digitsValue (digits : List Char) : Nat :=
  digits.foldl (fun total c => 10 * total + (c.toNat - 48)) 0

def takeSign : List Char → Bool × List Char
  | '-' :: rest => (true, rest)
  | '+' :: rest => (false, rest)
  | text => (false, text)

def takeDigits (text : List Char) : List Char × List Char :=
  (text.takeWhile isAsciiDigit, text.dropWhile isAsciiDigit)

/-- A decimal literal: `digits * 10 ^ exponent`, with a sign that also a zero keeps. -/
structure Decimal where
  negative : Bool
  digits : Nat
  exponent : Int
  deriving DecidableEq, Repr

def readExponent? : List Char → Option Int
  | [] => some 0
  | mark :: rest =>
      if mark = 'e' || mark = 'E' then
        let (negative, rest) := takeSign rest
        let (digits, rest) := takeDigits rest
        if digits.isEmpty || !rest.isEmpty then none
        else
          let size : Int := digitsValue digits
          some (if negative then -size else size)
      else none

def readUnsigned? (negative : Bool) (text : List Char) : Option Decimal :=
  let (whole, rest) := takeDigits text
  let (places, rest) := match rest with
    | '.' :: rest => takeDigits rest
    | _ => ([], rest)
  if whole.isEmpty && places.isEmpty then none
  else do
    let exponent ← readExponent? rest
    some ⟨negative, digitsValue (whole ++ places), exponent - places.length⟩

def Decimal.read? (text : List Char) : Option Decimal :=
  let (negative, rest) := takeSign text
  readUnsigned? negative rest

/-- Removes underscores that stand between two digits; any other makes the text no number. -/
def dropUnderscores? : List Char → Option (List Char)
  | [] => some []
  | '_' :: _ => none
  | c :: '_' :: d :: rest =>
      if isAsciiDigit c && isAsciiDigit d then (dropUnderscores? (d :: rest)).map (c :: ·) else none
  | c :: rest => (dropUnderscores? rest).map (c :: ·)

def lowerAscii (text : List Char) : List Char := text.map Char.toLower

def readWord? (text : List Char) : Option Double :=
  let (negative, rest) := takeSign text
  let word := String.ofList (lowerAscii rest)
  if word = "inf" || word = "infinity" then some (Double.infinity negative)
  else if word = "nan" then some Double.nan
  else none

def Double.ofLiteral (literal : Decimal) : Double :=
  Double.ofDecimal literal.negative literal.digits literal.exponent

/-- Digits of all scripts as the ones that they stand for, and blanks as spaces. What else is not
ASCII becomes a character that no number has. -/
def plainDigits (text : List Char) : List Char :=
  text.map fun c =>
    if c.toNat < 128 then c
    else if Text.isBlank c then ' '
    else match Unicode.decimalValue? c with
      | some digit => Char.ofNat (48 + digit)
      | none => '?'

def isPlainBlank (c : Char) : Bool := c = ' ' || (9 ≤ c.toNat && c.toNat ≤ 13)

def Double.read? (text : String) : Option Double :=
  let trimmed := Text.trim isPlainBlank (plainDigits text.toList)
  match readWord? trimmed with
  | some x => some x
  | none => do
      let digits ← dropUnderscores? trimmed
      let literal ← Decimal.read? digits
      some (Double.ofLiteral literal)

end Mustache.Number
