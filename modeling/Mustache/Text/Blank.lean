/-!
Blank characters, removing them around a name, and splitting a text: into words, which are maximal
runs of characters that are not blank, into the pieces between separators, or into lines.
-/

namespace Mustache.Text

set_option autoImplicit false

/-- The space, the control characters that move to another place or separate records, and the
spaces and line separators of other scripts. The zero width characters are not blank. -/
def isBlank (c : Char) : Bool :=
  let n := c.toNat
  (9 ≤ n && n ≤ 13) || (28 ≤ n && n ≤ 32) || n == 0x85 || n == 0xa0 || n == 0x1680 ||
    (0x2000 ≤ n && n ≤ 0x200a) || n == 0x2028 || n == 0x2029 || n == 0x202f || n == 0x205f ||
    n == 0x3000

def trimStart {α : Type} (blank : α → Bool) (items : List α) : List α := items.dropWhile blank

def trimEnd {α : Type} (blank : α → Bool) (items : List α) : List α :=
  (items.reverse.dropWhile blank).reverse

def trim {α : Type} (blank : α → Bool) (items : List α) : List α :=
  trimEnd blank (trimStart blank items)

/-- The maximal runs of items that are not blank, in order. -/
def runs {α : Type} (blank : α → Bool) : List α → List (List α)
  | [] => []
  | item :: rest =>
      if blank item then runs blank rest
      else match rest, runs blank rest with
        | next :: _, run :: later =>
            if blank next then [item] :: run :: later else (item :: run) :: later
        | _, later => [item] :: later

/-- The pieces between separators, which may be empty: one more than there are separators. -/
def pieces {α : Type} (separator : α → Bool) : List α → List (List α)
  | [] => [[]]
  | item :: rest =>
      if separator item then [] :: pieces separator rest
      else match pieces separator rest with
        | [] => [[item]]
        | piece :: later => (item :: piece) :: later

def strip (text : List Char) : List Char := trim isBlank text

def words (text : List Char) : List (List Char) := runs isBlank text

/-- A carriage return counts as a newline, and so does one together with the newline after it. -/
def unifyNewlines : List Char → List Char
  | '\r' :: '\n' :: rest => '\n' :: unifyNewlines rest
  | '\r' :: rest => '\n' :: unifyNewlines rest
  | c :: rest => c :: unifyNewlines rest
  | [] => []

def isLineEnd (c : Char) : Bool :=
  let n := c.toNat
  (10 ≤ n && n ≤ 13) || (28 ≤ n && n ≤ 30) || n == 0x85 || n == 0x2028 || n == 0x2029

/-- Splits at line ends. Two items that `joined` accepts are one line end; a line end after which
nothing comes begins no further line. -/
def splitLines {α : Type} (lineEnd : α → Bool) (joined : α → α → Bool) : List α → List (List α)
  | [] => []
  | [item] => if lineEnd item then [[]] else [[item]]
  | item :: next :: rest =>
      if joined item next then [] :: splitLines lineEnd joined rest
      else
        let later := splitLines lineEnd joined (next :: rest)
        if lineEnd item then [] :: later
        else match later with
          | [] => [[item]]
          | line :: lines => (item :: line) :: lines

/-- Tabs become spaces up to the next multiple of eight columns; `column` is the current one. -/
def expandTabs {α : Type} (tab newline : α → Bool) (space : α) : Nat → List α → List α
  | _, [] => []
  | column, item :: rest =>
      if tab item then
        let width := 8 - column % 8
        List.replicate width space ++ expandTabs tab newline space (column + width) rest
      else
        item :: expandTabs tab newline space (if newline item then 0 else column + 1) rest

end Mustache.Text
