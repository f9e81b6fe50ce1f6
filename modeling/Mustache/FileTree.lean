import Mustache.Fault
import Mustache.Path
import Mustache.Text.Blank
import Mustache.Text.Utf8

/-!
A snapshot of files and directories, by their places from the top. Paths are walked part by part:
two dots lead to the parent of a directory that is there, and nothing lies below a file. There are
no links.
-/

namespace Mustache

set_option autoImplicit false

inductive Entry where
  | file (content : List UInt8)
  | directory
  deriving DecidableEq, Repr

/-- The directory of every entry but the top is an entry, too. -/
structure FileTree where
  entries : List (List String × Entry)
  deriving DecidableEq, Repr

namespace FileTree

def empty : FileTree := ⟨[([], .directory)]⟩

def get? (tree : FileTree) (place : List String) : Option Entry := tree.entries.lookup place

def isDirectory (tree : FileTree) (place : List String) : Bool :=
  tree.get? place == some .directory

def put (tree : FileTree) (place : List String) (entry : Entry) : FileTree :=
  ⟨(place, entry) :: tree.entries.filter (·.1 != place)⟩

def size (tree : FileTree) : Nat :=
  tree.entries.foldl (fun total entry => match entry.2 with
    | .file content => total + content.length
    | .directory => total) 0

def nameLimit : Nat := 255

def pathLimit : Nat := 4095

/-- Takes the parts of a path one by one; every place that is left behind is a directory. -/
def walk (tree : FileTree) (path : String) : List String → List String →
    Except FileFault (List String)
  | here, [] => .ok here
  | here, part :: rest =>
      match tree.get? here with
      | none => .error (.notFound path)
      | some (.file _) => .error (.notDirectory path)
      | some .directory =>
          if Text.nameSize part > nameLimit then .error (.nameTooLong path)
          else walk tree path (Path.follow here part) rest

def locate (tree : FileTree) (directory : List String) (path : Path) :
    Except FileFault (List String) :=
  if path.parts.any fun part => (Text.nameOctets? part.toList).isNone then
    .error (.unencodable path.text)
  else if path.parts.any (·.toList.contains '\x00') then .error (.badPath path.text)
  else if Text.nameSize path.text > pathLimit then .error (.nameTooLong path.text)
  else tree.walk path.text (if path.absolute then [] else directory) path.parts

def find (tree : FileTree) (directory : List String) (path : Path) : Except FileFault Entry := do
  let place ← tree.locate directory path
  match tree.get? place with
  | some entry => return entry
  | none => throw (.notFound path.text)

/-- Whether there is anything at a path. A name that is too long for a file is an error. -/
def exists? (tree : FileTree) (directory : List String) (path : Path) : Except FileFault Bool :=
  match tree.find directory path with
  | .ok _ => .ok true
  | .error (.nameTooLong name) => .error (.nameTooLong name)
  | .error _ => .ok false

/-- What a name leads to as the system takes it: with a slash or a dot at its end it must be a
directory, and the empty name leads nowhere. -/
def findNamed (tree : FileTree) (directory : List String) (name : String) :
    Except FileFault Entry := do
  let path := Path.read name
  if name.isEmpty then throw (.notFound path.text)
  else
    let entry ← tree.find directory path
    let mark := (Text.pieces (· = '/') name.toList).getLast?.getD []
    match entry with
    | .file _ => if mark = [] || mark = ['.'] then throw (.notDirectory path.text) else return entry
    | .directory => return entry

def readOctets (tree : FileTree) (directory : List String) (path : Path) :
    Except Fault (List UInt8) :=
  match tree.find directory path with
  | .ok (.file content) => .ok content
  | .ok .directory => .error (.file (.isDirectory path.text))
  | .error fault => .error (.file fault)

/-- The text of octets in a file, whatever its newlines were written with. -/
def textOfOctets (octets : List UInt8) : Except Fault String :=
  match Text.decodeStrict octets with
  | some text => .ok (String.ofList (Text.unifyNewlines text.toList))
  | none => .error (.value .undecodable)

def readText (tree : FileTree) (directory : List String) (path : Path) : Except Fault String := do
  textOfOctets (← tree.readOctets directory path)

/-- Makes one directory; one that is there already is as good. -/
def makeDirectory (tree : FileTree) (directory : List String) (path : Path) :
    Except FileFault FileTree := do
  let place ← tree.locate directory path
  match tree.get? place with
  | none => return tree.put place .directory
  | some .directory => return tree
  | some (.file _) => throw (.alreadyExists path.text)

def makeParents (tree : FileTree) (directory : List String) (anchor : Anchor) :
    List String → Except FileFault FileTree
  | [] => tree.makeDirectory directory ⟨anchor, []⟩
  | part :: before =>
      let path : Path := ⟨anchor, (part :: before).reverse⟩
      match tree.makeDirectory directory path with
      | .error (.notFound _) => do
          let made ← makeParents tree directory anchor before
          made.makeDirectory directory path
      | result => result

def makeDirectories (tree : FileTree) (directory : List String) (path : Path) :
    Except FileFault FileTree :=
  tree.makeParents directory path.anchor path.parts.reverse

def writeText (tree : FileTree) (directory : List String) (path : Path) (text : String) :
    Except FileFault FileTree := do
  let place ← tree.locate directory path
  match tree.get? place with
  | some .directory => throw (.isDirectory path.text)
  | _ =>
      if place.dropLast ≠ place && tree.isDirectory place.dropLast then
        return tree.put place (.file (Text.encode text))
      else throw (.notFound path.text)

end FileTree

end Mustache
