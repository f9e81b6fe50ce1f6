import Mustache.Text.Blank
import Mustache.Text.Utf8

/-!
Reading a file as text in pieces. Octets are read as far as a piece needs them, so a file that is
no text throughout delivers the pieces that are complete before the octet that shows it is read.
How many octets a piece takes is estimated from those read last.
-/

namespace Mustache.Text

set_option autoImplicit false

/-- The characters at the front of octets, each with the number of octets up to its end, and the
place of the octet with which they are no text any more. If they break off inside of a character
that is the place behind them. -/
def decodeFront : (place : Nat) → Option Unfinished → List Octet → List (Char × Nat) × Nat
  | place, _, [] => ([], place)
  | place, state, octet :: rest =>
      let (decoded, next) := match state with
        | none => beginCharacter octet
        | some unfinished => continueCharacter unfinished octet
      match decoded with
      | [] => decodeFront (place + 1) next rest
      | [some c] =>
          let (more, broken) := decodeFront (place + 1) next rest
          ((c, place + 1) :: more, broken)
      | _ => ([], place)

structure Front where
  chars : List (Char × Nat)
  broken : Nat
  size : Nat

structure Extent where
  octets : Nat
  latest : Nat
  gained : Nat

namespace Front

def ofOctets (octets : List Octet) : Front :=
  let (chars, broken) := decodeFront 0 none octets
  ⟨chars, broken, octets.length⟩

def pieceLength : Nat := 8192

/-- How many characters are ready when so many octets have been read. A carriage return at the end
waits for what follows it. -/
def ready (front : Front) (octets : Nat) : Nat :=
  let whole := (front.chars.takeWhile (·.2 ≤ octets)).map (·.1)
  (unifyNewlines whole).length - (if whole.getLast? = some '\r' then 1 else 0)

/-- Reads on until enough characters are ready, if they ever are. -/
def readUntil (front : Front) (goal : Nat) : (fuel : Nat) → Extent → Option Extent
  | 0, _ => none
  | fuel + 1, extent =>
      let ready := front.ready extent.octets
      if goal ≤ ready then some extent
      else
        let missing := goal - ready
        let wanted := max missing (extent.latest * missing / extent.gained)
        let next := min front.size (extent.octets + max pieceLength wanted)
        if next = extent.octets || front.broken < next then none
        else
          front.readUntil goal fuel ⟨next, next - extent.octets, front.ready next - ready⟩

/-- How many characters are delivered in complete pieces. -/
def delivered (front : Front) : (fuel count : Nat) → Extent → Nat
  | 0, count, _ => count
  | fuel + 1, count, extent =>
      match front.readUntil (count + pieceLength) (front.size + 1) extent with
      | none => count
      | some extent => front.delivered fuel (count + pieceLength) extent

end Front

/-- What reading a file that is no text throughout delivers before it fails. -/
def readableFront (octets : List Octet) : List Char :=
  let front := Front.ofOctets octets
  (unifyNewlines (front.chars.map (·.1))).take (front.delivered (front.size + 1) 0 ⟨0, 0, 0⟩)

end Mustache.Text
