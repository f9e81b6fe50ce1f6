import Mustache.Document.Yaml.Scalar

/-!
The tokens of a YAML document. Indentation is made explicit: every block sequence and mapping has
a token at its start and one at its end. Whether a node is a key shows only at the colon behind
it, so a mark is left where a key may begin, and marks that turned out to be keys are replaced
when the whole text has been read.
-/

namespace Mustache.Document.Yaml

set_option autoImplicit false

inductive Token where
  | directive
  | documentStart
  | documentEnd
  | sequenceStart
  | mappingStart
  | blockEnd
  | flowSequenceStart
  | flowSequenceEnd
  | flowMappingStart
  | flowMappingEnd
  | item
  | comma
  | key
  | value
  | anchor (name : String)
  | alias (name : String)
  | tag (name : String)
  | scalar (plain : Bool) (content : String)
  | finish
  /-- Where a text can be read no further. -/
  | refused (fault : DocumentFault)
  deriving DecidableEq, Repr

/-- A token, or the place where a key may begin. -/
inductive Mark where
  | token (token : Token)
  | candidate (number : Nat)

/-- Where a key may begin. A required one stands where nothing but a key can. -/
structure Candidate where
  number : Nat
  required : Bool
  index : Nat
  line : Nat
  column : Nat

/-- `marks` come latest first. A candidate is waiting for its colon on a level of brackets; one
that got it is listed in `keys`, with whether it begins a block mapping. -/
structure Scanner where
  cursor : Cursor
  indent : Int
  indents : List Int
  level : Nat
  keyAllowed : Bool
  waiting : List (Nat × Candidate)
  keys : List (Nat × Bool)
  count : Nat
  marks : List Mark

namespace Scanner

def start (text : List Char) : Scanner := ⟨.start text, -1, [], 0, true, [], [], 0, []⟩

def emit (scanner : Scanner) (token : Token) : Scanner :=
  { scanner with marks := .token token :: scanner.marks }

def moveTo (scanner : Scanner) (cursor : Cursor) : Scanner := { scanner with cursor := cursor }

def keyLimit : Nat := 1024

def noColon {α : Type} : Except DocumentFault α := refuse "could not find expected ':'"

/-- Gives up the candidates that their colon cannot follow any more. -/
def dropStale (scanner : Scanner) : Except DocumentFault Scanner :=
  let stale := fun (candidate : Candidate) =>
    candidate.line ≠ scanner.cursor.line || scanner.cursor.index > candidate.index + keyLimit
  if scanner.waiting.any fun entry => stale entry.2 && entry.2.required then noColon
  else .ok { scanner with waiting := scanner.waiting.filter fun entry => !stale entry.2 }

def dropCandidate (scanner : Scanner) : Except DocumentFault Scanner :=
  match scanner.waiting.lookup scanner.level with
  | none => .ok scanner
  | some candidate =>
      if candidate.required then noColon
      else .ok { scanner with waiting := scanner.waiting.filter (·.1 != scanner.level) }

def addCandidate (scanner : Scanner) : Except DocumentFault Scanner :=
  if scanner.keyAllowed then do
    let scanner ← scanner.dropCandidate
    let cursor := scanner.cursor
    let candidate : Candidate :=
      { number := scanner.count
        required := scanner.level = 0 && scanner.indent = cursor.column
        index := cursor.index
        line := cursor.line
        column := cursor.column }
    return { scanner with
      waiting := (scanner.level, candidate) :: scanner.waiting
      count := scanner.count + 1
      marks := .candidate scanner.count :: scanner.marks }
  else .ok scanner

def endBlocks (column indent : Int) : List Int → List Mark → Int × List Int × List Mark
  | [], marks => (indent, [], marks)
  | outer :: indents, marks =>
      if indent > column then endBlocks column outer indents (.token .blockEnd :: marks)
      else (indent, outer :: indents, marks)

def unwind (scanner : Scanner) (column : Int) : Scanner :=
  if scanner.level > 0 then scanner
  else
    let (indent, indents, marks) := endBlocks column scanner.indent scanner.indents scanner.marks
    { scanner with indent := indent, indents := indents, marks := marks }

def openBlock (scanner : Scanner) (column : Int) (token : Token) : Scanner :=
  if scanner.indent < column then
    { scanner with
      indent := column
      indents := scanner.indent :: scanner.indents
      marks := .token token :: scanner.marks }
  else scanner

/-- Skips blanks, comments and line ends. Outside of brackets a key may begin on a new line. -/
def skipGap : (fuel : Nat) → Scanner → Scanner
  | 0, scanner => scanner
  | fuel + 1, scanner =>
      let cursor := scanner.cursor
      let cursor :=
        if cursor.index = 0 && cursor.peek? = some byteOrderMark then cursor.advance else cursor
      let cursor := cursor.dropWhile (· = ' ')
      let cursor := if cursor.peek? = some '#' then cursor.dropWhile (!isBreak ·) else cursor
      match cursor.takeBreak? with
      | none => scanner.moveTo cursor
      | some (_, next) =>
          let keyAllowed := scanner.keyAllowed || scanner.level = 0
          skipGap fuel { scanner with cursor := next, keyAllowed := keyAllowed }

/-- A token of some characters that no key can begin with. -/
def endOfDocument (scanner : Scanner) (token : Token) (next : Cursor) :
    Except DocumentFault Scanner := do
  let scanner ← (scanner.unwind (-1)).dropCandidate
  return { (scanner.emit token) with cursor := next, keyAllowed := false }

def openFlow (scanner : Scanner) (token : Token) : Except DocumentFault Scanner := do
  let scanner ← scanner.addCandidate
  return { (scanner.emit token) with
    cursor := scanner.cursor.advance
    level := scanner.level + 1
    keyAllowed := true }

def closeFlow (scanner : Scanner) (token : Token) : Except DocumentFault Scanner := do
  let scanner ← scanner.dropCandidate
  return { (scanner.emit token) with
    cursor := scanner.cursor.advance
    level := scanner.level - 1
    keyAllowed := false }

def comma (scanner : Scanner) : Except DocumentFault Scanner := do
  let scanner ← scanner.dropCandidate
  return { (scanner.emit .comma) with cursor := scanner.cursor.advance, keyAllowed := true }

def beginEntry (scanner : Scanner) (block token : Token) (keyAllowed : Bool) (message : String) :
    Except DocumentFault Scanner := do
  if scanner.level = 0 && !scanner.keyAllowed then refuse message
  else
    let opened :=
      if scanner.level = 0 then scanner.openBlock scanner.cursor.column block else scanner
    let scanner ← opened.dropCandidate
    return { (scanner.emit token) with
      cursor := scanner.cursor.advance
      keyAllowed := keyAllowed }

/-- The colon: behind a candidate it makes it a key, elsewhere the key is explicit or empty. -/
def colon (scanner : Scanner) : Except DocumentFault Scanner :=
  match scanner.waiting.lookup scanner.level with
  | some candidate =>
      let column : Int := candidate.column
      let opens := scanner.level = 0 && scanner.indent < column
      .ok { (scanner.emit .value) with
        cursor := scanner.cursor.advance
        indent := if opens then column else scanner.indent
        indents := if opens then scanner.indent :: scanner.indents else scanner.indents
        waiting := scanner.waiting.filter (·.1 != scanner.level)
        keys := (candidate.number, opens) :: scanner.keys
        keyAllowed := false }
  | none =>
      scanner.beginEntry .mappingStart .value (scanner.level = 0)
        "mapping values are not allowed here"

def leaf (scanner : Scanner) (token : Token) (next : Cursor) : Except DocumentFault Scanner := do
  let scanner ← scanner.addCandidate
  return { (scanner.emit token) with cursor := next, keyAllowed := false }

def isNameCharacter (c : Char) : Bool := c.isAlphanum || c = '-' || c = '_'

/-- The name behind the sign of an anchor or alias. -/
def nameLeaf (scanner : Scanner) (make : String → Token) : Except DocumentFault Scanner :=
  let (name, next) := scanner.cursor.advance.takeWhile isNameCharacter
  let ends := match next.rest with
    | [] => true
    | c :: rest => atGap (c :: rest) || "?:,]\x7d%@".contains c || c.toNat = 96
  if name.isEmpty || !ends then refuse "expected alphabetic or numeric character"
  else scanner.leaf (make (String.ofList name)) next

def tagLeaf (scanner : Scanner) : Except DocumentFault Scanner :=
  let (name, next) := scanner.cursor.advance.takeWhile fun c => !isSpaceOrTab c && !isBreak c
  scanner.leaf (.tag (String.ofList name)) next

def plainLeaf (scanner : Scanner) : Except DocumentFault Scanner := do
  let cursor := scanner.cursor
  let taken :=
    takePlain (scanner.level > 0) (scanner.indent + 1) (cursor.rest.length + 1) ⟨[], false, cursor⟩
  let scanner ← scanner.leaf (.scalar true (String.ofList taken.content)) taken.cursor
  return { scanner with keyAllowed := taken.newline }

def quotedLeaf (scanner : Scanner) (double : Bool) : Except DocumentFault Scanner := do
  let scanner ← scanner.addCandidate
  let inner := scanner.cursor.advance
  let (content, next) ← takeQuoted double (inner.rest.length + 1) inner
  return { (scanner.emit (.scalar false (String.ofList content))) with
    cursor := next
    keyAllowed := false }

def blockLeaf (scanner : Scanner) (folded : Bool) : Except DocumentFault Scanner := do
  let scanner ← scanner.dropCandidate
  let (content, next) ← takeBlock folded scanner.indent scanner.cursor.advance
  return { (scanner.emit (.scalar false (String.ofList content))) with
    cursor := next
    keyAllowed := true }

def beginsPlain (inFlow : Bool) (c : Char) (rest : List Char) : Bool :=
  if c = '-' then !atGap rest
  else if c = '?' || c = ':' then !inFlow && !atGap rest
  else !(",[]\x7b\x7d#&*!|>'\"%@".contains c || c.toNat = 96 || isSpaceOrTab c || isBreak c)

def takeToken (scanner : Scanner) (c : Char) (rest : List Char) : Except DocumentFault Scanner :=
  let cursor := scanner.cursor
  let inFlow := scanner.level > 0
  let atStart := cursor.column = 0
  if c = '%' && atStart then
    scanner.endOfDocument .directive (cursor.dropWhile (!isBreak ·))
  else if atStart && cursor.atMark '-' then scanner.endOfDocument .documentStart (cursor.skip 3)
  else if atStart && cursor.atMark '.' then scanner.endOfDocument .documentEnd (cursor.skip 3)
  else if c = '[' then scanner.openFlow .flowSequenceStart
  else if c = '{' then scanner.openFlow .flowMappingStart
  else if c = ']' then scanner.closeFlow .flowSequenceEnd
  else if c = '}' then scanner.closeFlow .flowMappingEnd
  else if c = ',' then scanner.comma
  else if c = '-' && atGap rest then
    scanner.beginEntry .sequenceStart .item true "sequence entries are not allowed here"
  else if c = '?' && (inFlow || atGap rest) then
    scanner.beginEntry .mappingStart .key (!inFlow) "mapping keys are not allowed here"
  else if c = ':' && (inFlow || atGap rest) then scanner.colon
  else if c = '*' then scanner.nameLeaf .alias
  else if c = '&' then scanner.nameLeaf .anchor
  else if c = '!' then scanner.tagLeaf
  else if c = '|' && !inFlow then scanner.blockLeaf false
  else if c = '>' && !inFlow then scanner.blockLeaf true
  else if c = '\'' then scanner.quotedLeaf false
  else if c = '"' then scanner.quotedLeaf true
  else if beginsPlain inFlow c rest then scanner.plainLeaf
  else refuse "found character that cannot start any token"

/-- Replaces the candidates by what they turned out to be. -/
def settle (scanner : Scanner) : List Token :=
  scanner.marks.reverse.flatMap fun mark =>
    match mark with
    | .token token => [token]
    | .candidate number =>
        match scanner.keys.lookup number with
        | none => []
        | some true => [.mappingStart, .key]
        | some false => [.key]

/-- A text that is refused is refused from the first place on where it was still open whether a
key begins. -/
def giveUp (scanner : Scanner) (fault : DocumentFault) : List Token :=
  let isOpen := fun (mark : Mark) =>
    match mark with
    | .candidate number => scanner.waiting.any (·.2.number == number)
    | .token _ => false
  let settled := (scanner.marks.reverse.takeWhile (!isOpen ·)).reverse
  { scanner with marks := .token (.refused fault) :: settled }.settle

def run : (fuel : Nat) → Scanner → List Token
  | 0, scanner => scanner.settle
  | fuel + 1, scanner =>
      let ready := (skipGap (scanner.cursor.rest.length + 1) scanner).dropStale.map fun scanner =>
        scanner.unwind scanner.cursor.column
      match ready with
      | .error fault => scanner.giveUp fault
      | .ok scanner =>
          match scanner.cursor.rest with
          | [] =>
              match (scanner.unwind (-1)).dropCandidate with
              | .error fault => scanner.giveUp fault
              | .ok scanner => (scanner.emit .finish).settle
          | c :: rest =>
              match scanner.takeToken c rest with
              | .error fault => scanner.giveUp fault
              | .ok scanner => run fuel scanner

end Scanner

def tokens (text : List Char) : List Token :=
  Scanner.run (text.length + 2) (Scanner.start text)

end Mustache.Document.Yaml
