import Mustache.Proofs.Template.Assembly
import Mustache.Proofs.Token.Search

/-!
Reading a source by search. This says without any lexer which pieces a source has. The tree that
the tags make is carried along, because it decides which newlines are dropped and where reading
stops.
-/

namespace Mustache

set_option autoImplicit false

/-- A piece of a source: text, or a tag with the markers in force and its content as written. -/
inductive Piece where
  | text (content : List Char)
  | tag (delimiters : Delimiters) (content : List Char) (told : Tag) (line : Nat)
  deriving DecidableEq, Repr

namespace Piece

def token : Piece → Token
  | .text content => .text (String.ofList content)
  | .tag _ _ told line => .tag told line

def ofText (content : List Char) : List Piece := if content = [] then [] else [.text content]

end Piece

/-- The pieces of a source, as far as it can be read, and why it cannot be read further. -/
structure Reading where
  pieces : List Piece
  failure : Option Fault
  deriving DecidableEq, Repr

namespace Reading

def behind (earlier : List Piece) (reading : Reading) : Reading :=
  { reading with pieces := earlier ++ reading.pieces }

def scan (reading : Reading) : Scan := ⟨reading.pieces.map Piece.token, reading.failure⟩

end Reading

namespace Assembly

/-- Neither the config nor the segments of partials change the shape of a tree, so where only the shape
counts all partials are empty. -/
def grow : Assembly → Token → Except Fault Assembly := place .standard fun _ => .ok []

def growAll : Assembly → List Token → Except Fault Assembly := List.foldlM grow

/-- The innermost open section has no segment yet, or the last segment of the innermost level is a
section. -/
def atBlock (tree : Assembly) : Bool :=
  match tree.current with
  | [] => !tree.blocks.isEmpty
  | .block _ _ _ _ :: _ => true
  | _ => false

end Assembly

/-- A newline behind a tag is dropped in a section that is still empty and behind a section, but
never behind a directive. -/
def Tag.dropsNewline (tree : Assembly) : Tag → Bool
  | .directive _ => false
  | _ => tree.atBlock

/-- A tag without closing marker is refused, unless the source breaks off inside of that marker:
what the tag had is then text. -/
def Reading.unclosed (delimiters : Delimiters) (rest : List Char) (line : Nat) : Reading :=
  if delimiters.closing.second.isSome ∧ rest.getLast? = some delimiters.closing.first then
    ⟨[.text rest], none⟩
  else ⟨[], some (.parse ⟨.endedInTag (String.ofList rest), some line⟩)⟩

namespace Reading

def start (delimiters : Delimiters) (line : Nat) (tree : Assembly) (source : List Char) :
    Reading :=
  match _found : delimiters.find source with
  | .nothing => ⟨Piece.ofText source, none⟩
  | .unclosed before rest =>
      (unclosed delimiters rest (line + newlines source)).behind (Piece.ofText before)
  | .tag before content after =>
      let line := line + newlines before + newlines content
      let reading : Reading :=
        match _told : Tag.readBefore delimiters content after line with
        | .error error => ⟨[], some (.parse error)⟩
        | .ok (tag, rest) =>
            let piece := Piece.tag delimiters content tag line
            let reading : Reading :=
              match tree.growAll ((Piece.ofText before ++ [piece]).map Piece.token) with
              | .error fault => ⟨[], some fault⟩
              | .ok tree =>
                  let next := passNewline (tag.dropsNewline tree) line rest
                  start (tag.delimitersAfter delimiters) next.1 tree next.2
            reading.behind [piece]
      reading.behind (Piece.ofText before)
termination_by source.length
decreasing_by
  calc
    (passNewline (tag.dropsNewline tree) line rest).2.length ≤ rest.length := pass_newline_le _ _ _
    _ ≤ after.length := read_before_le _told
    _ < source.length := find_tag_shorter _found

section Cases

variable {delimiters : Delimiters} {line : Nat} {tree : Assembly}
  {source before content after rest : List Char} {tag : Tag}

@[simp]
theorem behind_behind (reading : Reading) (first second : List Piece) :
    (reading.behind second).behind first = reading.behind (first ++ second) := by
  simp [behind]

theorem start_of_nothing (found : delimiters.find source = .nothing) :
    start delimiters line tree source = ⟨Piece.ofText source, none⟩ := by
  rw [start]
  split <;> simp_all

theorem start_of_unclosed (found : delimiters.find source = .unclosed before rest) :
    start delimiters line tree source =
      (unclosed delimiters rest (line + newlines source)).behind (Piece.ofText before) := by
  rw [start]
  split <;> simp_all

theorem start_of_refused {error : ParseError}
    (found : delimiters.find source = .tag before content after)
    (told : Tag.readBefore delimiters content after (line + newlines before + newlines content) =
      .error error) :
    start delimiters line tree source = ⟨Piece.ofText before, some (.parse error)⟩ := by
  rw [start]
  split <;> simp_all
  split <;> simp_all [behind]

theorem start_of_misplaced {fault : Fault} {closed : Nat}
    (found : delimiters.find source = .tag before content after)
    (counted : line + newlines before + newlines content = closed)
    (told : Tag.readBefore delimiters content after closed = .ok (tag, rest))
    (misplaced : tree.growAll ((Piece.ofText before).map Piece.token ++ [.tag tag closed]) =
      .error fault) :
    start delimiters line tree source =
      ⟨Piece.ofText before ++ [.tag delimiters content tag closed], some fault⟩ := by
  subst counted
  rw [start]
  split <;> simp_all
  split <;> simp_all [behind, Piece.token]

theorem start_of_tag {next : Assembly} {closed : Nat}
    (found : delimiters.find source = .tag before content after)
    (counted : line + newlines before + newlines content = closed)
    (told : Tag.readBefore delimiters content after closed = .ok (tag, rest))
    (placed : tree.growAll ((Piece.ofText before).map Piece.token ++ [.tag tag closed]) =
      .ok next) :
    start delimiters line tree source =
      (start (tag.delimitersAfter delimiters) (passNewline (tag.dropsNewline next) closed rest).1
        next (passNewline (tag.dropsNewline next) closed rest).2).behind
          (Piece.ofText before ++ [.tag delimiters content tag closed]) := by
  subst counted
  rw [start]
  split <;> simp_all
  split <;> simp_all [Piece.token]

end Cases

end Reading

def Reading.ofText (source : List Char) : Reading := start .standard 1 .empty source

end Mustache
