import Mustache.Command.Words
import Mustache.Document.Yaml

/-!
What the program leaves to libraries: to tell the options of a command line from its other words, to
read YAML, and to take the styles of a terminal out of what is printed. Only the program itself says
which libraries it uses.

A style is an escape character, a bracket, numbers and a letter. Output that does not go to a
terminal is written without them.
-/

namespace Mustache

set_option autoImplicit false

namespace Text

def escapeCharacter : Char := Char.ofNat 27

def isStyleParameter (c : Char) : Bool := c = ';' || c = '?' || c.isDigit

def dropStyle? : List Char → Option (List Char)
  | c :: '[' :: rest =>
      if c = escapeCharacter then
        match rest.dropWhile isStyleParameter with
        | final :: after => if final.isAlpha then some after else none
        | [] => none
      else none
  | _ => none

def stripStyles (text : List Char) : List Char :=
  match _dropped : dropStyle? text with
  | some after => stripStyles after
  | none =>
      match text with
      | [] => []
      | c :: rest => c :: stripStyles rest
  termination_by text.length
  decreasing_by
    · have shorter (rest : List Char) :=
        (List.dropWhile_suffix isStyleParameter (l := rest)).length_le
      unfold dropStyle? at _dropped
      grind
    · simp

end Text

structure Libraries where
  /-- There is no result if an option is unknown, lacks its value or has one too many. -/
  words? : List Command.OptionSpec → (interspersed : Bool) → List String → Option Command.Words
  yaml : String → Except Fault Document
  unstyled : List Char → List Char

/-- The libraries that the program uses, with the following gaps. A date with a time stays a text. Of
the tags only `!`, `!!str`, `!!null`, `!!seq` and `!!map` are known, not `!!int`, `!!float`,
`!!bool`, `!!binary`, `!!set` or `!!omap`. An alias within the node that it repeats is refused, and
what several aliases repeat is a value of its own for each of them. -/
def Libraries.standard : Libraries where
  words? := Command.Words.ofList?
  yaml := Document.Yaml.read
  unstyled := Text.stripStyles

end Mustache
