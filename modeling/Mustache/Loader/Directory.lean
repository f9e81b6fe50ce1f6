import Mustache.Config
import Mustache.FileTree

/-!
Partials from files below a root directory. A name with the suffix behind it is a path in the
root; one that leads out of the root is refused before any file is looked at.
-/

namespace Mustache

set_option autoImplicit false

structure PartialsDirectory where
  root : List String
  suffix : String
  deriving DecidableEq, Repr

namespace PartialsDirectory

def open? (directory : List String) (root suffix : String) : Except Fault PartialsDirectory := do
  return ⟨← (Path.read root).resolve? root directory, suffix⟩

def place? (partials : PartialsDirectory) (name : String) : Except Fault (List String) :=
  (Path.read (name ++ partials.suffix)).resolve? name partials.root

def serve (partials : PartialsDirectory) (tree : FileTree) (name : String) : Reply :=
  match partials.place? name with
  | .error fault => ⟨[], .error fault⟩
  | .ok place =>
      let path := placeText place
      if !Path.within place partials.root then
        ⟨[], .error (.load (.outsideRoot (placeText partials.root) name) (some name))⟩
      else match tree.locate [] (.ofPlace place) with
        | .error (.nameTooLong _) => ⟨[], .error (.file (.nameTooLong path))⟩
        | _ =>
            match tree.get? place with
            | some (.file content) =>
                match FileTree.textOfOctets content with
                | .ok text => ⟨["Loaded partial " ++ name ++ " from " ++ path], .ok (.text text)⟩
                | .error fault => ⟨[], .error fault⟩
            | _ => ⟨["Partial file not found: " ++ path], .error (.load (.noFile path) (some name))⟩

/-- Every name that a partial asks for stands in a file, so there are no more of them than octets
in all files. -/
def loader (partials : PartialsDirectory) (tree : FileTree) (identity : Nat) : Loader where
  identity := identity
  depth := tree.size + 1
  reply _ name := partials.serve tree name

end PartialsDirectory

end Mustache
