/-!
Octets and characters. Decoding reads octets one at a time; each maximal piece that begins no
valid character, or breaks off inside one, is reported as one gap. Lossy decoding puts the
replacement character for each gap, strict decoding refuses them.

Surrogates are code units of which only two together stand for a character. One that stands alone is
no character, and no octets encode it, but texts come with it and it leaves as it came. A character
cannot hold one here, so it is held as a private character of the last plane. These two thousand
private characters are thereby given up: a text that really has one of them is taken to have the
surrogate instead.
-/

namespace Mustache.Text

set_option autoImplicit false

abbrev Octet := UInt8

/-- What the first octet of a character announces. The octet after it must lie between `low` and
`high`; any further ones are plain continuation octets. -/
inductive Lead where
  | whole (value : Nat)
  | multi (owed low high value : Nat)
  | invalid
  deriving DecidableEq, Repr

def Lead.ofOctet (octet : Octet) : Lead :=
  let b := octet.toNat
  if b < 0x80 then .whole b
  else if b < 0xc2 then .invalid
  else if b < 0xe0 then .multi 1 0x80 0xbf (b - 0xc0)
  else if b = 0xe0 then .multi 2 0xa0 0xbf 0
  else if b = 0xed then .multi 2 0x80 0x9f 13
  else if b < 0xf0 then .multi 2 0x80 0xbf (b - 0xe0)
  else if b = 0xf0 then .multi 3 0x90 0xbf 0
  else if b < 0xf4 then .multi 3 0x80 0xbf (b - 0xf0)
  else if b = 0xf4 then .multi 3 0x80 0x8f 4
  else .invalid

structure Unfinished where
  owed : Nat
  low : Nat
  high : Nat
  value : Nat
  deriving DecidableEq, Repr

def beginCharacter (octet : Octet) : List (Option Char) × Option Unfinished :=
  match Lead.ofOctet octet with
  | .whole value => ([some (Char.ofNat value)], none)
  | .multi owed low high value => ([], some ⟨owed, low, high, value⟩)
  | .invalid => ([none], none)

/-- Reads an octet inside a character. One that does not continue it leaves a gap and begins
anew. -/
def continueCharacter (unfinished : Unfinished) (octet : Octet) :
    List (Option Char) × Option Unfinished :=
  let b := octet.toNat
  if unfinished.low ≤ b && b ≤ unfinished.high then
    let value := 64 * unfinished.value + b % 64
    match unfinished.owed with
    | owed + 2 => ([], some ⟨owed + 1, 0x80, 0xbf, value⟩)
    | _ => ([some (Char.ofNat value)], none)
  else
    let (decoded, next) := beginCharacter octet
    (none :: decoded, next)

def decodeFrom : Option Unfinished → List Octet → List (Option Char)
  | none, [] => []
  | some _, [] => [none]
  | state, octet :: rest =>
      let (decoded, next) := match state with
        | none => beginCharacter octet
        | some unfinished => continueCharacter unfinished octet
      decoded ++ decodeFrom next rest

def decode (octets : List Octet) : List (Option Char) := decodeFrom none octets

def replacement : Char := Char.ofNat 0xfffd

def decodeLossy (octets : List Octet) : String :=
  String.ofList ((decode octets).map (·.getD replacement))

def decodeStrict (octets : List Octet) : Option String :=
  ((decode octets).mapM id).map String.ofList

def encode (text : String) : List Octet := text.toUTF8.data.toList

def isHighSurrogate (unit : Nat) : Bool := 0xd800 ≤ unit && unit < 0xdc00

def isLowSurrogate (unit : Nat) : Bool := 0xdc00 ≤ unit && unit < 0xe000

def isSurrogate (unit : Nat) : Bool := isHighSurrogate unit || isLowSurrogate unit

/-- The character of a code unit. A surrogate that stands alone is held as one of the private
characters U+10D800 to U+10DFFF. -/
def ofUnit (unit : Nat) : Char :=
  if isSurrogate unit then Char.ofNat (0x100000 + unit) else Char.ofNat unit

/-- The surrogate that a character holds. A text that really has the private character is taken to
have the surrogate, which octets cannot encode. -/
def surrogate? (c : Char) : Option Nat :=
  let unit := c.toNat % 0x100000
  if isSurrogate unit && c.toNat = 0x100000 + unit then some unit else none

def isEncodable (text : List Char) : Bool := text.all fun c => (surrogate? c).isNone

def isOctetSurrogate (unit : Nat) : Bool := 0xdc80 ≤ unit && unit < 0xdd00

def nameCharacter? (c : Char) : Option (List Octet) :=
  match surrogate? c with
  | none => some (String.utf8EncodeChar c)
  | some unit => if isOctetSurrogate unit then some [UInt8.ofNat unit] else none

/-- The octets by which the system knows a file or a variable of this name, if it can be one. -/
def nameOctets? : List Char → Option (List Octet)
  | [] => some []
  | c :: rest => do
      let octets ← nameCharacter? c
      return octets ++ (← nameOctets? rest)

def nameSize (name : String) : Nat := ((nameOctets? name.toList).getD []).length

end Mustache.Text
