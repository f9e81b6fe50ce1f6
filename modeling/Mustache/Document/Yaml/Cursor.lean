import Mustache.Fault

/-!
A place in the text of a YAML document, with its line and its column. A line ends at a newline, a
carriage return, both together, or one of the line separators outside of ASCII.
-/

namespace Mustache.Document.Yaml

set_option autoImplicit false

def isBreak (c : Char) : Bool :=
  c = '\n' || c = '\r' || c.toNat = 0x85 || c.toNat = 0x2028 || c.toNat = 0x2029

def isSpaceOrTab (c : Char) : Bool := c = ' ' || c = '\t'

def atGap : List Char → Bool
  | [] => true
  | c :: _ => isSpaceOrTab c || isBreak c

def isPrintable (c : Char) : Bool :=
  let n := c.toNat
  n = 9 || n = 10 || n = 13 || (0x20 ≤ n && n ≤ 0x7e) || n = 0x85 ||
    (0xa0 ≤ n && n ≤ 0xd7ff) || (0xe000 ≤ n && n ≤ 0xfffd) || 0x10000 ≤ n

def byteOrderMark : Char := Char.ofNat 0xfeff

structure Cursor where
  rest : List Char
  index : Nat
  line : Nat
  column : Nat

namespace Cursor

def start (text : List Char) : Cursor := ⟨text, 0, 0, 0⟩

def advance (cursor : Cursor) : Cursor :=
  match cursor.rest with
  | [] => cursor
  | c :: rest =>
      if isBreak c && !(c = '\r' && rest.head? == some '\n') then
        ⟨rest, cursor.index + 1, cursor.line + 1, 0⟩
      else
        let width := if c = byteOrderMark then 0 else 1
        ⟨rest, cursor.index + 1, cursor.line, cursor.column + width⟩

def skip : Cursor → Nat → Cursor
  | cursor, 0 => cursor
  | cursor, n + 1 => cursor.advance.skip n

def peek? (cursor : Cursor) : Option Char := cursor.rest.head?

def takeWhile (accept : Char → Bool) (cursor : Cursor) : List Char × Cursor :=
  let taken := cursor.rest.takeWhile accept
  (taken, cursor.skip taken.length)

def dropWhile (accept : Char → Bool) (cursor : Cursor) : Cursor := (cursor.takeWhile accept).2

def takeBreak? (cursor : Cursor) : Option (Char × Cursor) :=
  match cursor.rest with
  | '\r' :: '\n' :: _ => some ('\n', cursor.skip 2)
  | c :: _ =>
      if isBreak c then
        let plain := if c = '\r' || c.toNat = 0x85 then '\n' else c
        some (plain, cursor.advance)
      else none
  | [] => none

def atMark (cursor : Cursor) (c : Char) : Bool :=
  match cursor.rest with
  | a :: b :: d :: after => a = c && b = c && d = c && atGap after
  | _ => false

def atDocumentMark (cursor : Cursor) : Bool := cursor.atMark '-' || cursor.atMark '.'

end Cursor

end Mustache.Document.Yaml
