import Mustache.Document
import Mustache.Document.Yaml.Cursor

/-!
The texts that a YAML document holds, by the ways in which they can be written: plain, in single
or double quotes, or as a block of lines. A single line end inside of a plain or quoted text
counts as a space, and of several ones the first is dropped.
-/

namespace Mustache.Document.Yaml

set_option autoImplicit false

def refuse {α : Type} (message : String) : Except DocumentFault α := .error (.scanning message)

/-- What a line end comes to with the further ones after it. -/
def fold (lineEnd : Char) (more : List Char) : List Char :=
  if lineEnd ≠ '\n' then lineEnd :: more else if more.isEmpty then [' '] else more

/-- The characters of a plain text up to a blank, a comma or bracket of a list around it, or the
colon behind a key. -/
def plainWord (inFlow : Bool) : List Char → List Char
  | [] => []
  | c :: rest =>
      if isSpaceOrTab c || isBreak c then []
      else if c = ':' && atGap rest then []
      else if c = ':' && inFlow && rest.head?.any (",[]\x7b\x7d".contains ·) then []
      else if inFlow && ",?[]\x7b\x7d".contains c then []
      else c :: plainWord inFlow rest

structure Gap where
  text : List Char
  newline : Bool
  cursor : Cursor

/-- The line ends of a plain text; a mark that begins or ends a document ends them. -/
def plainBreaks : (fuel : Nat) → Cursor → Option (List Char × Cursor) × Cursor
  | 0, cursor => (none, cursor)
  | fuel + 1, cursor =>
      if cursor.atDocumentMark then (none, cursor)
      else
        let inner := cursor.dropWhile (· = ' ')
        match inner.takeBreak? with
        | none => (some ([], inner), inner)
        | some (lineEnd, next) =>
            match plainBreaks fuel next with
            | (some (more, after), _) => (some (lineEnd :: more, after), after)
            | (none, after) => (none, after)

def plainGap (cursor : Cursor) : Gap :=
  let (spaces, next) := cursor.takeWhile (· = ' ')
  match next.takeBreak? with
  | none => ⟨spaces, false, next⟩
  | some (lineEnd, after) =>
      match plainBreaks (after.rest.length + 1) after with
      | (some (more, after), _) => ⟨fold lineEnd more, true, after⟩
      | (none, after) => ⟨[], true, after⟩

structure Taken where
  content : List Char
  newline : Bool
  cursor : Cursor

/-- Reads a plain text, whose further lines are indented by at least `indent`. -/
def takePlain (inFlow : Bool) (indent : Int) : (fuel : Nat) → Gap → Taken
  | 0, gap => ⟨[], gap.newline, gap.cursor⟩
  | fuel + 1, gap =>
      if gap.cursor.peek? = some '#' then ⟨[], gap.newline, gap.cursor⟩
      else
        match plainWord inFlow gap.cursor.rest with
        | [] => ⟨[], gap.newline, gap.cursor⟩
        | c :: word =>
            let next := plainGap (gap.cursor.skip (word.length + 1))
            if next.text.isEmpty || next.cursor.peek? = some '#' ||
                (!inFlow && next.cursor.column < indent) then
              ⟨gap.text ++ c :: word, next.newline, next.cursor⟩
            else
              let taken := takePlain inFlow indent fuel next
              { taken with content := gap.text ++ c :: word ++ taken.content }

def simpleEscape? (c : Char) : Option Char :=
  let pairs : List (Char × Nat) :=
    [('0', 0), ('a', 7), ('b', 8), ('t', 9), ('\t', 9), ('n', 10), ('v', 11), ('f', 12), ('r', 13),
      ('e', 27), (' ', 32), ('"', 34), ('\\', 92), ('/', 47), ('N', 0x85), ('_', 0xa0),
      ('L', 0x2028), ('P', 0x2029)]
  (pairs.lookup c).map Char.ofNat

def escapeDigits? (c : Char) : Option Nat :=
  [('x', 2), ('u', 4), ('U', 8)].lookup c

def quotedBreaks : (fuel : Nat) → Cursor → Except DocumentFault (List Char × Cursor)
  | 0, cursor => .ok ([], cursor)
  | fuel + 1, cursor =>
      if cursor.atDocumentMark then refuse "found unexpected document separator"
      else
        let inner := cursor.dropWhile isSpaceOrTab
        match inner.takeBreak? with
        | none => .ok ([], inner)
        | some (lineEnd, next) => do
            let (more, after) ← quotedBreaks fuel next
            return (lineEnd :: more, after)

def quotedGap (cursor : Cursor) : Except DocumentFault (List Char × Cursor) :=
  let (spaces, next) := cursor.takeWhile isSpaceOrTab
  match next.rest, next.takeBreak? with
  | [], _ => refuse "found unexpected end of stream"
  | _, none => .ok (spaces, next)
  | _, some (lineEnd, after) => do
      let (more, after) ← quotedBreaks (after.rest.length + 1) after
      return (fold lineEnd more, after)

/-- An escape in double quotes, with the cursor behind the backslash. -/
def takeEscape (cursor : Cursor) : Except DocumentFault (List Char × Cursor) :=
  match cursor.rest with
  | [] => refuse "found unknown escape character"
  | c :: rest =>
      match simpleEscape? c, escapeDigits? c, cursor.takeBreak? with
      | some plain, _, _ => .ok ([plain], cursor.advance)
      | none, some width, _ =>
          match Json.hexUnit? (rest.take width) with
          | some code =>
              if rest.length < width then refuse "expected escape sequence"
              else if code > 0x10ffff then .error (.noCharacter code)
              else .ok ([Text.ofUnit code], cursor.skip (width + 1))
          | none => refuse "expected escape sequence"
      | none, none, some (_, after) => quotedBreaks (after.rest.length + 1) after
      | none, none, none => refuse "found unknown escape character"

def takeQuoted (double : Bool) : (fuel : Nat) → Cursor →
    Except DocumentFault (List Char × Cursor)
  | 0, _ => refuse "found unexpected end of stream"
  | fuel + 1, cursor => do
      match cursor.rest with
      | [] => refuse "found unexpected end of stream"
      | c :: rest =>
          if c = '\'' && !double then
            if rest.head? = some '\'' then
              let (content, after) ← takeQuoted double fuel (cursor.skip 2)
              return (c :: content, after)
            else return ([], cursor.advance)
          else if c = '"' && double then return ([], cursor.advance)
          else if isSpaceOrTab c || isBreak c then
            let (gap, next) ← quotedGap cursor
            let (content, after) ← takeQuoted double fuel next
            return (gap ++ content, after)
          else if c = '\\' && double then
            let (escaped, next) ← takeEscape cursor.advance
            let (content, after) ← takeQuoted double fuel next
            return (escaped ++ content, after)
          else
            let (content, after) ← takeQuoted double fuel cursor.advance
            return (c :: content, after)

/-- How a block of lines is written. `keep` says whether all line ends at its end stay, or none;
if nothing is said, one stays. -/
structure BlockHeader where
  keep : Option Bool
  indentation : Option Nat

def chomping? (c : Char) : Option Bool :=
  if c = '+' then some true else if c = '-' then some false else none

def takeChomping (cursor : Cursor) : Option Bool × Cursor :=
  match cursor.peek?.bind chomping? with
  | some keep => (some keep, cursor.advance)
  | none => (none, cursor)

def takeIndentation (cursor : Cursor) : Except DocumentFault (Option Nat × Cursor) :=
  match cursor.peek? with
  | some c =>
      if c = '0' then refuse "expected indentation indicator in the range 1-9, but found 0"
      else if '1' ≤ c && c ≤ '9' then .ok (some (c.toNat - 48), cursor.advance)
      else .ok (none, cursor)
  | none => .ok (none, cursor)

/-- The marks behind the sign of a block, in either order, and the comment after them. -/
def takeHeader (cursor : Cursor) : Except DocumentFault (BlockHeader × Cursor) := do
  let (keep, next) := takeChomping cursor
  let (indentation, next) ← takeIndentation next
  let (keep, next) := if keep.isNone && indentation.isSome then takeChomping next else (keep, next)
  if !(match next.rest with | [] => true | c :: _ => c = ' ' || isBreak c) then
    refuse "expected chomping or indentation indicators"
  else
    let next := next.dropWhile (· = ' ')
    let next := if next.peek? = some '#' then next.dropWhile (!isBreak ·) else next
    match next.rest, next.takeBreak? with
    | [], _ => return (⟨keep, indentation⟩, next)
    | _, some (_, after) => return (⟨keep, indentation⟩, after)
    | _, none => refuse "expected a comment or a line break"

def leadingLines : (fuel widest : Nat) → Cursor → List Char × Nat × Cursor
  | 0, widest, cursor => ([], widest, cursor)
  | fuel + 1, widest, cursor =>
      let inner := cursor.dropWhile (· = ' ')
      let widest := if inner.index = cursor.index then widest else max widest inner.column
      match inner.takeBreak? with
      | none => ([], widest, inner)
      | some (lineEnd, next) =>
          let (more, widest, after) := leadingLines fuel widest next
          (lineEnd :: more, widest, after)

def indentTo (indent : Nat) : (fuel : Nat) → Cursor → Cursor
  | 0, cursor => cursor
  | fuel + 1, cursor =>
      if cursor.column < indent && cursor.peek? = some ' ' then indentTo indent fuel cursor.advance
      else cursor

def innerLines (indent : Nat) : (fuel : Nat) → Cursor → List Char × Cursor
  | 0, cursor => ([], cursor)
  | fuel + 1, cursor =>
      let inner := indentTo indent indent cursor
      match inner.takeBreak? with
      | none => ([], inner)
      | some (lineEnd, next) =>
          let (more, after) := innerLines indent fuel next
          (lineEnd :: more, after)

def blockLines (folded : Bool) (keep : Option Bool) (indent : Nat) :
    (fuel : Nat) → (breaks : List Char) → Cursor → List Char × Cursor
  | 0, _, cursor => ([], cursor)
  | fuel + 1, breaks, cursor =>
      let (line, atEnd) := cursor.takeWhile (!isBreak ·)
      let (lineEnd, next) := match atEnd.takeBreak? with
        | some (lineEnd, next) => ([lineEnd], next)
        | none => ([], atEnd)
      let (more, after) := innerLines indent (next.rest.length + 1) next
      if after.column = indent && !after.rest.isEmpty then
        let (content, last) := blockLines folded keep indent fuel more after
        let plainStart := !(line.head?.any isSpaceOrTab)
        let joint :=
          if folded && lineEnd = ['\n'] && plainStart && !(after.peek?.any isSpaceOrTab) then
            if more.isEmpty then [' '] else []
          else lineEnd
        (breaks ++ line ++ joint ++ content, last)
      else
        let kept := match keep with
          | none => lineEnd
          | some true => lineEnd ++ more
          | some false => []
        (breaks ++ line ++ kept, after)

/-- Reads a block of lines behind its sign. It is indented further than what is around it. -/
def takeBlock (folded : Bool) (outer : Int) (cursor : Cursor) :
    Except DocumentFault (List Char × Cursor) := do
  let (header, next) ← takeHeader cursor
  let least := max 1 (outer + 1).toNat
  let fuel := next.rest.length + 1
  let (indent, breaks, first) := match header.indentation with
    | none =>
        let (breaks, widest, first) := leadingLines fuel 0 next
        (max least widest, breaks, first)
    | some extra =>
        let indent := least + extra - 1
        let (breaks, first) := innerLines indent fuel next
        (indent, breaks, first)
  if first.column = indent && !first.rest.isEmpty then
    return blockLines folded header.keep indent fuel breaks first
  else return (if header.keep = some true then breaks else [], first)

end Mustache.Document.Yaml
