/-!
Tables of code points, written as text: hexadecimal numbers, runs such as `41-5a`, runs that take
every second code point such as `100-12e/2`, and mappings such as `61-7a>41` or `df>53+53`.
The readers below are the only place that knows this notation.
-/

namespace Mustache.Unicode

set_option autoImplicit false

def hexDigit (c : Char) : Nat :=
  if '0' ≤ c && c ≤ '9' then c.toNat - 48
  else if 'a' ≤ c && c ≤ 'f' then c.toNat - 87
  else 0

def hexNumber (digits : List Char) : Nat :=
  digits.foldl (fun total c => 16 * total + hexDigit c) 0

/-- Cuts at every occurrence of a character; the pieces are never fewer than one. -/
def cutAt (mark : Char) : List Char → List (List Char)
  | [] => [[]]
  | c :: rest =>
      if c = mark then [] :: cutAt mark rest
      else match cutAt mark rest with
        | [] => [[c]]
        | piece :: pieces => (c :: piece) :: pieces

def entries (lines : List String) : List (List Char) :=
  lines.flatMap fun line => cutAt ' ' line.toList

/-- The code points from `first` to `last`, each `step` apart. -/
structure Span where
  first : Nat
  last : Nat
  step : Nat
  deriving DecidableEq, Repr

def Span.ofEntry (entry : List Char) : Span :=
  match cutAt '-' entry with
  | [low, high] =>
      match cutAt '/' high with
      | [high, step] => ⟨hexNumber low, hexNumber high, hexNumber step⟩
      | _ => ⟨hexNumber low, hexNumber high, 1⟩
  | _ => ⟨hexNumber entry, hexNumber entry, 1⟩

def Span.read (lines : List String) : List Span := (entries lines).map Span.ofEntry

def Span.contains (span : Span) (n : Nat) : Bool :=
  span.first ≤ n && n ≤ span.last && (n - span.first) % span.step == 0

def Span.covers (spans : List Span) (n : Nat) : Bool := spans.any (·.contains n)

/-- A span whose code points are all moved by one distance: `first` goes to `target`. -/
structure Shift where
  span : Span
  target : Nat
  deriving DecidableEq, Repr

def Shift.read (lines : List String) : List Shift :=
  (entries lines).filterMap fun entry =>
    match cutAt '>' entry with
    | [source, target] => some ⟨Span.ofEntry source, hexNumber target⟩
    | _ => none

def Shift.move? (shift : Shift) (n : Nat) : Option Nat :=
  if shift.span.contains n then some (shift.target + (n - shift.span.first)) else none

structure Expansion where
  source : Nat
  target : List Nat
  deriving DecidableEq, Repr

def Expansion.read (lines : List String) : List Expansion :=
  (entries lines).filterMap fun entry =>
    match cutAt '>' entry with
    | [source, target] => some ⟨hexNumber source, (cutAt '+' target).map hexNumber⟩
    | _ => none

/-- A character in neither table stays as it is. -/
def mapCharacter (expansions : List Expansion) (shifts : List Shift) (c : Char) : List Char :=
  match expansions.find? (·.source == c.toNat) with
  | some expansion => expansion.target.map Char.ofNat
  | none =>
      match shifts.findSome? (·.move? c.toNat) with
      | some n => [Char.ofNat n]
      | none => [c]

end Mustache.Unicode
