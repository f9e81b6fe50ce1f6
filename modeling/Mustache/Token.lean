import Mustache.Delimiters

/-!
The tokens of a template: pieces of text and tags, in the order of the source. The lexer reads one
character at a time, so that a source may come in pieces of any size.

It counts lines, and it drops the newline right after a tag that leaves an open section without
content or follows a closed one; such newlines are counted all the same. What is refused here
depends on the tags alone, not on how sections nest.
-/

namespace Mustache

set_option autoImplicit false

inductive Tag where
  | interpolation (name : String) (raw : Bool)
  | opening (inverted : Bool) (name : String)
  | closing (name : String)
  | inclusion (name : String)
  | comment
  | directive (delimiters : Delimiters)
  deriving DecidableEq, Repr

/-- The line of a tag is that of its closing marker. -/
inductive Token where
  | text (content : String)
  | tag (tag : Tag) (line : Nat)
  deriving DecidableEq, Repr

def occursIn (needle : List Char) : List Char → Bool
  | [] => needle.isEmpty
  | c :: rest => needle.isPrefixOf (c :: rest) || occursIn needle rest

def Tag.requireOneLine (tag : List Char) (line : Nat) (result : Tag) : Except ParseError Tag :=
  if tag.contains '\n' || tag.contains '\r' then
    .error ⟨.newlineInName (String.ofList tag), some line⟩
  else .ok result

/-- Reads the content of a tag by its first character. The names of partials, like comments, may
contain newlines. -/
def Tag.read (content : List Char) (line : Nat) : Except ParseError Tag :=
  let tag := Text.strip content
  match tag with
  | [] => .error ⟨.emptyTag, some line⟩
  | sigil :: rest =>
      let name := String.ofList (Text.strip rest)
      if sigil = '#' then requireOneLine tag line (.opening false name)
      else if sigil = '^' then requireOneLine tag line (.opening true name)
      else if sigil = '/' then requireOneLine tag line (.closing name)
      else if sigil = '>' then .ok (.inclusion name)
      else if sigil = '!' then .ok .comment
      else if sigil = '&' then requireOneLine tag line (.interpolation name true)
      else requireOneLine tag line (.interpolation (String.ofList tag) false)

/-- Where the lexer stands. After the first character of a marker it may yet turn out that no
marker follows; after a tag that began with a brace a third closing brace is due. -/
inductive Mode where
  | text
  | opening
  | tag
  | closing
  | thirdBrace (content : List Char)
  deriving DecidableEq, Repr

/-- `pending` is the text or tag content read so far and `tokens` the finished tokens, both latest
first. `atBlock` holds after the tag of a section until something else than a comment follows it,
and `swallow` while a newline would be dropped. -/
structure Lexer where
  delimiters : Delimiters
  mode : Mode
  pending : List Char
  line : Nat
  swallow : Bool
  atBlock : Bool
  tokens : List Token
  deriving DecidableEq, Repr

/-- The tokens up to the end of a source, or to the first tag that is refused or the place where
the source cannot be read. -/
structure Scan where
  tokens : List Token
  failure : Option Fault
  deriving DecidableEq, Repr

namespace Lexer

def start : Lexer := ⟨.standard, .text, [], 1, false, false, []⟩

def push (lexer : Lexer) (c : Char) : Lexer := { lexer with pending := c :: lexer.pending }

def content (lexer : Lexer) : List Char := lexer.pending.reverse

def flush (lexer : Lexer) : Lexer :=
  if lexer.pending.isEmpty then lexer
  else
    { lexer with
      pending := []
      atBlock := false
      tokens := .text (String.ofList lexer.content) :: lexer.tokens }

def enterTag (lexer : Lexer) : Lexer := { lexer.flush with mode := .tag }

/-- Whether a newline after the tag is dropped, given whether it was before the tag. -/
def blockAfter (before : Bool) : Tag → Bool
  | .opening _ _ | .closing _ => true
  | .comment | .directive _ => before
  | .interpolation _ _ | .inclusion _ => false

def emit (lexer : Lexer) (tag : Tag) : Lexer :=
  let atBlock := blockAfter lexer.atBlock tag
  { lexer with
    mode := .text
    pending := []
    swallow := atBlock
    atBlock := atBlock
    tokens := .tag tag lexer.line :: lexer.tokens }

def finishTag (lexer : Lexer) (content : List Char) : Except ParseError Lexer :=
  if occursIn lexer.delimiters.opening.chars content then
    .error ⟨.openerInTag (String.ofList content), some lexer.line⟩
  else do
    let tag ← Tag.read content lexer.line
    return lexer.emit tag

def applyDirective (lexer : Lexer) (content : List Char) : Except ParseError Lexer :=
  if content.length < 2 || content.getLast? != some '=' then
    .error ⟨.badDelimiterTag (String.ofList content), some lexer.line⟩
  else do
    let directive := String.ofList (content.drop 1).dropLast
    let delimiters ← lexer.delimiters.update directive (some lexer.line)
    return { lexer.emit (.directive delimiters) with delimiters := delimiters, swallow := false }

def endTag (lexer : Lexer) : Except ParseError Lexer :=
  let content := lexer.content
  if content.head? = some '=' then lexer.applyDirective content
  else if lexer.delimiters.isStandard && content.head? == some '{' then
    .ok { lexer with mode := .thirdBrace content, pending := [] }
  else lexer.finishTag content

/-- A character that is neither a third brace nor a dropped newline. -/
def accept (lexer : Lexer) (c : Char) : Except ParseError Lexer :=
  let opening := lexer.delimiters.opening
  let closing := lexer.delimiters.closing
  match lexer.mode with
  | .text | .thirdBrace _ =>
      if c = opening.first then
        if opening.second.isNone then .ok lexer.enterTag
        else .ok { lexer with mode := .opening }
      else .ok (lexer.push c)
  | .opening =>
      if opening.second = some c then .ok lexer.enterTag
      else if c = opening.first then .ok (lexer.push opening.first)
      else .ok { (lexer.push opening.first).push c with mode := .text }
  | .tag =>
      if c = closing.first then
        if closing.second.isNone then lexer.endTag
        else .ok { lexer with mode := .closing }
      else .ok (lexer.push c)
  | .closing =>
      if closing.second = some c then lexer.endTag
      else if c = closing.first then .ok (lexer.push closing.first)
      else .ok { (lexer.push closing.first).push c with mode := .tag }

def tripleError (lexer : Lexer) (content : List Char) : ParseError :=
  ⟨.badTripleTag (String.ofList content), some lexer.line⟩

def step (lexer : Lexer) (c : Char) : Except ParseError Lexer :=
  match lexer.mode with
  | .thirdBrace content =>
      if c = '}' then lexer.finishTag ('&' :: content.drop 1)
      else .error (lexer.tripleError content)
  | _ =>
      let counted := if c = '\n' then lexer.line + 1 else lexer.line
      let next := { lexer with line := counted, swallow := false }
      if c = '\n' && lexer.swallow then .ok next else next.accept c

/-- Reads one piece of the source; a refused tag ends the whole scan. -/
def feed : Lexer → List Char → Except Scan Lexer
  | lexer, [] => .ok lexer
  | lexer, c :: rest =>
      match lexer.step c with
      | .ok next => feed next rest
      | .error error => .error ⟨lexer.tokens.reverse, some (.parse error)⟩

/-- Reads the pieces of a stream, which ends at its first empty piece. -/
def feedPieces : Lexer → List String → Except Scan Lexer
  | lexer, [] => .ok lexer
  | lexer, piece :: pieces =>
      if piece.isEmpty then .ok lexer
      else do
        let next ← lexer.feed piece.toList
        feedPieces next pieces

/-- A source may end inside of a closing marker: what the tag had is then text. -/
def finish (lexer : Lexer) : Scan :=
  match lexer.mode with
  | .tag =>
      let error : ParseError := ⟨.endedInTag (String.ofList lexer.content), some lexer.line⟩
      ⟨lexer.tokens.reverse, some (.parse error)⟩
  | .thirdBrace content => ⟨lexer.tokens.reverse, some (.parse (lexer.tripleError content))⟩
  | .opening => ⟨(lexer.push lexer.delimiters.opening.first).flush.tokens.reverse, none⟩
  | .closing => ⟨(lexer.push lexer.delimiters.closing.first).flush.tokens.reverse, none⟩
  | .text => ⟨lexer.flush.tokens.reverse, none⟩

end Lexer

/-- Template text, whole or as the pieces that successive reads of a stream deliver. After the
last piece a stream ends or fails, and closing it may fail as well. -/
inductive Source where
  | text (content : String)
  | stream (pieces : List String) (failure closing : Option Fault)
  deriving DecidableEq, Repr

/-- The tokens of a source that has been read up to its end. -/
def Lexer.finishWith (lexer : Lexer) : Option Fault → Scan
  | none => lexer.finish
  | some fault => ⟨lexer.tokens.reverse, some fault⟩

def Source.scan (source : Source) : Scan :=
  let result := match source with
    | .text content => Lexer.finish <$> Lexer.start.feed content.toList
    | .stream pieces failure _ =>
        (Lexer.finishWith · failure) <$> Lexer.start.feedPieces pieces
  match result with
  | .ok scan | .error scan => scan

end Mustache
