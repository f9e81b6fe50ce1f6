import Mustache.Fault
import Mustache.Text.Blank
import Mustache.Text.Utf8

/-!
Paths of files. A path keeps the parts it was written with, two dots included; only empty parts
and single dots are dropped. Resolving makes it absolute and takes away the two dots, each with
the part before it. No file is looked at for that, but the system is asked for every place on the
way, and cannot be asked for one that it has no name for.
-/

namespace Mustache

set_option autoImplicit false

/-- Where a path starts: in the directory one is in, or at the top. Two slashes in front, though
not three, are kept, and mean the top as well. -/
inductive Anchor where
  | current
  | top
  | doubledTop
  deriving DecidableEq, Repr

structure Path where
  anchor : Anchor
  parts : List String
  deriving DecidableEq, Repr

namespace Path

def parentMark : String := ".."

def anchorOf : List Char → Anchor
  | '/' :: '/' :: '/' :: _ => .top
  | '/' :: '/' :: _ => .doubledTop
  | '/' :: _ => .top
  | _ => .current

def read (text : String) : Path where
  anchor := anchorOf text.toList
  parts := ((Text.pieces (· = '/') text.toList).map String.ofList).filter
    fun part => part ≠ "" ∧ part ≠ "."

def ofPlace (place : List String) : Path := ⟨.top, place⟩

def absolute (path : Path) : Bool := path.anchor != .current

/-- The directory that relative paths start from is written as a dot. -/
def text (path : Path) : String :=
  match path.anchor with
  | .top => "/" ++ "/".intercalate path.parts
  | .doubledTop => "//" ++ "/".intercalate path.parts
  | .current => if path.parts.isEmpty then "." else "/".intercalate path.parts

def join (base path : Path) : Path :=
  if path.absolute then path else ⟨base.anchor, base.parts ++ path.parts⟩

def parent (path : Path) : Path := { path with parts := path.parts.dropLast }

def name (path : Path) : String := path.parts.getLast?.getD ""

/-- The last dot of a name and what follows it; a dot at either end begins no suffix. -/
def suffix (path : Path) : String :=
  let tail := path.name.toList.reverse.takeWhile (· ≠ '.')
  let stem := path.name.length - tail.length - 1
  if tail.isEmpty || stem = 0 || tail.length = path.name.length then ""
  else String.ofList ('.' :: tail.reverse)

/-- Goes one step on from a place without two dots in it. Above the top there is only the top. -/
def follow (place : List String) (part : String) : List String :=
  if part = parentMark then place.dropLast else place ++ [part]

def resolve (directory : List String) (path : Path) : List String :=
  path.parts.foldl follow (if path.absolute then [] else directory)

/-- What keeps the system from knowing a part of a path: a surrogate that no octet stands for, or a
null character. `shown` is the path that the fault is about. -/
def partFault? (shown part : String) : Option FileFault :=
  if (Text.nameOctets? part.toList).isNone then some (.unencodable shown)
  else if part.toList.contains '\x00' then some (.badPath shown)
  else none

/-- Resolves a path, asking for one place after the other. -/
def resolve? (shown : String) (directory : List String) (path : Path) :
    Except Fault (List String) :=
  match path.parts.findSome? (partFault? shown) with
  | some fault => .error (.file fault)
  | none => .ok (path.resolve directory)

def within (place root : List String) : Bool := root.isPrefixOf place

end Path

def placeText (place : List String) : String := (Path.ofPlace place).text

end Mustache
