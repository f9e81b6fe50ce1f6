import Mustache.Text.Blank
import Mustache.Unicode.CaseMap
import Mustache.Unicode.Class

/-!
Tests of what kind of text a text is, and case conversion. Apart from the two tests that ask what a
text is free of, none holds of the empty text.

Only the capital sigma depends on its surroundings: at the end of a word its lower case is the final
form. The end of a word is judged past characters that have no say in it, such as apostrophes and
combining marks.
-/

namespace Mustache.Text

set_option autoImplicit false

open Unicode

def consistsOf (member : Char → Bool) (text : List Char) : Bool :=
  !text.isEmpty && text.all member

def isAlphanumeric (c : Char) : Bool :=
  isLetter c || isDecimal c || isDigit c || isNumeric c

def isAscii (text : List Char) : Bool := text.all (·.toNat < 128)

def isPrintableText (text : List Char) : Bool := text.all isPrintable

def isIdentifier : List Char → Bool
  | [] => false
  | c :: rest => isIdentifierStart c && rest.all isIdentifierPart

def isLowerText (text : List Char) : Bool :=
  !(text.any fun c => isUpper c || isTitle c) && text.any isLower

def isUpperText (text : List Char) : Bool :=
  !(text.any fun c => isLower c || isTitle c) && text.any isUpper

/-- Capitals only where no cased character precedes, small letters only where one does; `previous`
tells whether one precedes and `seen` whether any has been met. -/
def isTitleFrom (previous seen : Bool) : List Char → Bool
  | [] => seen
  | c :: rest =>
      if isUpper c || isTitle c then !previous && isTitleFrom true true rest
      else if isLower c then previous && isTitleFrom true true rest
      else isTitleFrom false seen rest

def isTitleText (text : List Char) : Bool := isTitleFrom false false text

def capitalSigma : Char := Char.ofNat 0x3a3

/-- `before` is what precedes the sigma, nearest first, and `after` what follows it. -/
def isFinalSigma (before after : List Char) : Bool :=
  ((before.dropWhile isCaseIgnorable).head?.any isCased) &&
    !((after.dropWhile isCaseIgnorable).head?.any isCased)

def lowerInContext (before : List Char) (c : Char) (after : List Char) : List Char :=
  if c = capitalSigma then
    [if isFinalSigma before after then Char.ofNat 0x3c2 else Char.ofNat 0x3c3]
  else toLower c

/-- Converts each character by a rule that sees what precedes it, nearest first, and what follows
it. -/
def convert (rule : List Char → Char → List Char → List Char) : List Char → List Char → List Char
  | _, [] => []
  | before, c :: after => rule before c after ++ convert rule (c :: before) after

def upper (text : List Char) : List Char := text.flatMap toUpper

def lower (text : List Char) : List Char := convert lowerInContext [] text

def foldCase (text : List Char) : List Char := text.flatMap toFolded

def titleCase (text : List Char) : List Char :=
  convert (fun before c after =>
    if before.head?.any isCased then lowerInContext before c after else toTitle c) [] text

def capitalize (text : List Char) : List Char :=
  convert (fun before c after =>
    if before.isEmpty then toTitle c else lowerInContext before c after) [] text

def swapCase (text : List Char) : List Char :=
  convert (fun before c after =>
    if isUpper c then lowerInContext before c after
    else if isLower c then toUpper c
    else [c]) [] text

end Mustache.Text
