import Mustache.Text.Utf8
import Mustache.Unicode.Class

/-!
Texts that are written so that they do no harm where they stand. For markup five characters are
written as entities. The replacements run one after the other over the whole text, and the ampersand
goes first, so that the ampersands which later entities bring in are not replaced again.

Inside of a container texts and octets are quoted. The single quote encloses, unless the content has
single quotes and no double ones. Control characters and whatever else does not print are written
by number.
-/

namespace Mustache.Text

set_option autoImplicit false

/-- Each special character and the entity that stands for it, in the order of replacement. -/
def entities : List (Char × String) :=
  [('&', "&amp;"), ('\'', "&apos;"), ('"', "&quot;"), ('<', "&lt;"), ('>', "&gt;")]

def replaceAll (target : Char) (substitute : List Char) (text : List Char) : List Char :=
  text.flatMap fun c => if c = target then substitute else [c]

def escapeCharacters (text : List Char) : List Char :=
  entities.foldl (fun text entity => replaceAll entity.1 entity.2.toList text) text

def escape (text : String) : String := String.ofList (escapeCharacters text.toList)

def hexCharacter (n : Nat) : Char :=
  if n < 10 then Char.ofNat (48 + n) else Char.ofNat (87 + n)

def hexDigits : (width : Nat) → Nat → List Char
  | 0, _ => []
  | width + 1, n => hexDigits width (n / 16) ++ [hexCharacter (n % 16)]

def enclosingQuote (single double : Bool) : Char := if single && !double then '"' else '\''

def quoteCharacter (quote c : Char) : List Char :=
  let n := c.toNat
  if c = quote || c = '\\' then ['\\', c]
  else if c = '\t' then ['\\', 't']
  else if c = '\n' then ['\\', 'n']
  else if c = '\r' then ['\\', 'r']
  else if Unicode.isPrintable c then [c]
  else if n < 0x100 then '\\' :: 'x' :: hexDigits 2 n
  else if n < 0x10000 then '\\' :: 'u' :: hexDigits 4 n
  else match surrogate? c with
    | some unit => '\\' :: 'u' :: hexDigits 4 unit
    | none => '\\' :: 'U' :: hexDigits 8 n

def quote (text : String) : String :=
  let cs := text.toList
  let mark := enclosingQuote (cs.contains '\'') (cs.contains '"')
  String.ofList (mark :: cs.flatMap (quoteCharacter mark) ++ [mark])

def quoteOctet (escaped : Char → Bool) (octet : UInt8) : List Char :=
  let c := Char.ofNat octet.toNat
  if escaped c || c = '\\' then ['\\', c]
  else if c = '\t' then ['\\', 't']
  else if c = '\n' then ['\\', 'n']
  else if c = '\r' then ['\\', 'r']
  else if octet < 0x20 || octet ≥ 0x7f then '\\' :: 'x' :: hexDigits 2 octet.toNat
  else [c]

def octetMark (octets : List UInt8) : Char :=
  enclosingQuote (octets.contains 39) (octets.contains 34)

def quoteOctets (octets : List UInt8) : String :=
  let mark := octetMark octets
  String.ofList ('b' :: mark :: octets.flatMap (quoteOctet (· = mark)) ++ [mark])

/-- In octets that can change the single quote is escaped whichever quote encloses, and the double
quote never is. -/
def quoteMutableOctets (octets : List UInt8) : String :=
  let mark := octetMark octets
  String.ofList ('b' :: mark :: octets.flatMap (quoteOctet (· = '\'')) ++ [mark])

end Mustache.Text
