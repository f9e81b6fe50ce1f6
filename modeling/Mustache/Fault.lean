/-!
Everything that can go wrong, by cause. The wording of each cause is in one place below. A fault
in a template carries the line of its tag; a fault met inside of a partial is passed on as it is.
-/

namespace Mustache

set_option autoImplicit false

inductive ParseCause where
  | badDirective (directive : String)
  | badDelimiterTag (tag : String)
  | badTripleTag (tag : String)
  | openerInTag (tag : String)
  | emptyTag
  | newlineInName (tag : String)
  | endedInTag (content : String)
  | closeWithoutOpen (name : String)
  | closeMismatch (name opened : String)
  | neverClosed (inverted : Bool) (name : String)
  /-- Refused by host code, in its own words. -/
  | reported (message : String)
  deriving DecidableEq, Repr

structure ParseError where
  cause : ParseCause
  line : Option Int
  deriving DecidableEq, Repr

inductive LoadCause where
  | notConfigured
  | unknownName (name : String)
  | outsideRoot (root name : String)
  | noFile (path : String)
  | circular (chain : List String)
  | tooDeep
  | reported (message : String)
  deriving DecidableEq, Repr

/-- The kinds of error that host code may raise on its own account. -/
inductive HostKind where
  | test | value | key | attribute | type | runtime | system
  deriving DecidableEq, Repr

inductive ContextFault where
  | undefined
  | divisionByZero
  | overflow
  deriving DecidableEq, Repr

inductive ValueFault where
  | notIterable
  | notOrdered
  | notComparable
  | wrongType
  | noSuchMember
  | emptyPop
  | octetOutOfRange
  | infiniteRatio
  | ratioOfNan
  | numeralTooLong
  | undecodable
  | negativeLength
  | lengthOutOfRange
  | tooLong
  | badNumeral
  | badDate
  | zeroDenominator
  | zeroStep
  | unencodable
  | arithmetic (cause : ContextFault)
  deriving DecidableEq, Repr

inductive FileFault where
  | notFound (path : String)
  | isDirectory (path : String)
  | notDirectory (path : String)
  | alreadyExists (path : String)
  | nameTooLong (path : String)
  | badPath (path : String)
  | unencodable (path : String)
  deriving DecidableEq, Repr

/-- What is wrong with a document: its characters, its structure, what it builds, how deep its parts
lie in one another, or an escape for a number that no character has. -/
inductive DocumentFault where
  | scanning (message : String)
  | structural (message : String)
  | composing (message : String)
  | constructing (message : String)
  | reading (message : String)
  | json (message : String)
  | tooDeep
  | noCharacter (code : Nat)
  deriving DecidableEq, Repr

inductive SettingsFault where
  | unsetVariable (name : String)
  | badSuffix (suffix : String)
  | noConfig (path : String)
  deriving DecidableEq, Repr

inductive Fault where
  | parse (error : ParseError)
  | load (cause : LoadCause) (template : Option String)
  /-- The source of a partial failed for a reason that is no template fault. -/
  | unloadable (name : String) (reason : Fault)
  | missingVariable (name : String) (line : Int)
  | general (message : String)
  | raised (kind : HostKind) (message : String)
  | value (cause : ValueFault)
  | file (cause : FileFault)
  | document (cause : DocumentFault)
  | settings (cause : SettingsFault)
  deriving DecidableEq, Repr

instance : Inhabited Fault := ⟨.general ""⟩

def ParseCause.message : ParseCause → String
  | .badDirective directive =>
      "Invalid delimiter configuration '" ++ directive ++ "'. Must be of the form " ++
        "\x7b\x7b=1 2=\x7d\x7d or \x7b\x7b=12 34=\x7d\x7d where 1, 2, 3 and 4 are delimiter chars."
  | .badDelimiterTag tag => "Invalid delimiter tag '" ++ tag ++ "'"
  | .badTripleTag tag => "Invalid triple-mustache tag: \x7b\x7b" ++ tag ++ "\x7d\x7d"
  | .openerInTag tag =>
      "Tag contains start tag delimiter, probably missing close delimiter '" ++ tag ++ "'"
  | .emptyTag => "Empty tag"
  | .newlineInName tag => "Invalid tag name: contains newline '" ++ tag ++ "'"
  | .endedInTag content => "Template ended while parsing a tag: " ++ content
  | .closeWithoutOpen name => "Section close tag with no open tag '" ++ name ++ "'"
  | .closeMismatch name opened =>
      "Section close tag with mismatched open tag '" ++ name ++ "' != '" ++ opened ++ "'"
  | .neverClosed inverted name =>
      (if inverted then "Inverted section" else "Section") ++ " missing close tag '" ++ name ++ "'"
  | .reported message => message

def ParseError.message (error : ParseError) : String :=
  match error.line with
  | none => error.cause.message
  | some line => error.cause.message ++ " @ line " ++ toString line

def LoadCause.message : LoadCause → String
  | .notConfigured => "Template loading not configured"
  | .unknownName name => "Template not found: " ++ name
  | .outsideRoot root name => "Template outside of " ++ root ++ ": " ++ name
  | .noFile path => "Template not found: " ++ path
  | .circular chain => "Recursive partial inclusion: " ++ " -> ".intercalate chain
  | .tooDeep => "Partials are included too deeply"
  | .reported message => message

def ValueFault.message : ValueFault → String
  | .notIterable => "value has no elements to iterate over"
  | .notOrdered => "values of these types have no order"
  | .notComparable => "not a number has no place in an order"
  | .wrongType => "value has the wrong type"
  | .noSuchMember => "value has no such member"
  | .emptyPop => "pop from an empty sequence"
  | .octetOutOfRange => "number does not fit into one octet"
  | .infiniteRatio => "infinity is no ratio of whole numbers"
  | .ratioOfNan => "not a number is no ratio of whole numbers"
  | .numeralTooLong => "number has too many digits to be written"
  | .undecodable => "octets are not UTF-8"
  | .negativeLength => "sequence claims a length below zero"
  | .lengthOutOfRange => "sequence is too long to be measured"
  | .tooLong => "sequence is too long to be held"
  | .badNumeral => "text is no number"
  | .badDate => "there is no such day"
  | .zeroDenominator => "fraction has the denominator zero"
  | .zeroStep => "range has steps of zero"
  | .unencodable => "text has a surrogate that stands alone"
  | .arithmetic .undefined => "operation has no result"
  | .arithmetic .divisionByZero => "quotient by zero"
  | .arithmetic .overflow => "result is too large"

def FileFault.message : FileFault → String
  | .notFound path => "No such file: " ++ path
  | .isDirectory path => "Is a directory: " ++ path
  | .notDirectory path => "Not a directory: " ++ path
  | .alreadyExists path => "File exists: " ++ path
  | .nameTooLong path => "File name too long: " ++ path
  | .badPath path => "Not a path: " ++ path
  | .unencodable path => "Not encodable: " ++ path

def DocumentFault.message : DocumentFault → String
  | .scanning message => message
  | .structural message => message
  | .composing message => message
  | .constructing message => message
  | .reading message => message
  | .json message => message
  | .tooDeep => "document is nested too deeply"
  | .noCharacter code => "no character has the number " ++ toString code

def SettingsFault.message : SettingsFault → String
  | .unsetVariable name => "Environment variable not set: " ++ name
  | .badSuffix suffix => "Partial suffix must start with '.': " ++ suffix
  | .noConfig path => "Config file not found: " ++ path

def missingVariableMessage (name : String) (line : Int) : String :=
  "No key, method or attribute with name '" ++ name ++ "' on line " ++ toString line

def Fault.message : Fault → String
  | .parse error => error.message
  | .load cause _ => cause.message
  | .unloadable name _ => "Unable to load template: " ++ name
  | .missingVariable name line => missingVariableMessage name line
  | .general message => message
  | .raised _ message => message
  | .value cause => cause.message
  | .file cause => cause.message
  | .document cause => cause.message
  | .settings cause => cause.message

/-- The faults of templates, as opposed to those of the values and files around them. -/
def Fault.isTemplateFault : Fault → Bool
  | .parse _ | .load _ _ | .unloadable _ _ | .missingVariable _ _ | .general _ => true
  | _ => false

/-- The largest number that can be asked for as that of a character. -/
def codeLimit : Nat := 2147483647

def DocumentFault.isOrdinary : DocumentFault → Bool
  | .tooDeep => false
  | .noCharacter code => code ≤ codeLimit
  | _ => true

def Fault.isDataFault : Fault → Bool
  | .file _ | .settings _ => true
  | .document cause => cause.isOrdinary
  | .raised kind _ => kind == .system || kind == .value
  | .value cause =>
      [ValueFault.numeralTooLong, .undecodable, .ratioOfNan, .negativeLength, .badNumeral,
        .badDate, .zeroStep, .unencodable].contains cause
  | _ => false

end Mustache
