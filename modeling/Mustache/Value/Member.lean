import Mustache.Number.Context
import Mustache.Number.Shortest
import Mustache.Sort
import Mustache.Text.Blank
import Mustache.Text.Casing
import Mustache.Text.Utf8
import Mustache.Value.Order

/-!
What values of the built-in types have by name: the conversions and tests of texts, the parts of
numbers and dates, the functions of decimals, and the operations that take items out of a list or
buffer or move them. Parts are there to be read, all else are routines. Routines that need arguments
are here by name only; those that say nothing about their parameters are not, since nobody calls
them.
-/

namespace Mustache

set_option autoImplicit false

open Number

def fail {α : Type} (cause : ValueFault) : Access α := throw (.value cause)

def giveText (content : List Char) : Access Value := pure (.text (String.ofList content))

def giveTexts (pieces : List (List Char)) : Access Value :=
  newList (pieces.map fun piece => .text (String.ofList piece))

/-- What a value has under a name: something to be read, or a routine, and what a call of it comes
to. -/
inductive Builtin where
  | part (give : Access Value)
  | routine (params : List Param) (action : Access Value)

def Builtin.used : Builtin → Access Value
  | .part give => give
  | .routine params action => if params.any Param.needsArgument then pure .missing else action

def reads (give : Access Value) : Option Builtin := some (.part give)

def calls (params : List Param) (action : Access Value) : Option Builtin :=
  some (.routine params action)

def needs (params : List Param) : Option Builtin := calls params (fail .wrongType)

def textMember? (content : List Char) (name : String) : Option Builtin :=
  match name with
  | "capitalize" => calls [] (giveText (Text.capitalize content))
  | "casefold" => calls [] (giveText (Text.foldCase content))
  | "encode" =>
      calls [.optional, .optional]
        (if Text.isEncodable content then pure (.octets (Text.encode (String.ofList content)))
        else fail .unencodable)
  | "expandtabs" =>
      calls [.optional]
        (giveText (Text.expandTabs (· = '\t') (fun c => c = '\n' || c = '\r') ' ' 0 content))
  | "isalnum" => calls [] (pure (.bool (Text.consistsOf Text.isAlphanumeric content)))
  | "isalpha" => calls [] (pure (.bool (Text.consistsOf Unicode.isLetter content)))
  | "isascii" => calls [] (pure (.bool (Text.isAscii content)))
  | "isdecimal" => calls [] (pure (.bool (Text.consistsOf Unicode.isDecimal content)))
  | "isdigit" => calls [] (pure (.bool (Text.consistsOf Unicode.isDigit content)))
  | "isidentifier" => calls [] (pure (.bool (Text.isIdentifier content)))
  | "islower" => calls [] (pure (.bool (Text.isLowerText content)))
  | "isnumeric" => calls [] (pure (.bool (Text.consistsOf Unicode.isNumeric content)))
  | "isprintable" => calls [] (pure (.bool (Text.isPrintableText content)))
  | "isspace" => calls [] (pure (.bool (Text.consistsOf Text.isBlank content)))
  | "istitle" => calls [] (pure (.bool (Text.isTitleText content)))
  | "isupper" => calls [] (pure (.bool (Text.isUpperText content)))
  | "lower" => calls [] (giveText (Text.lower content))
  | "lstrip" => calls [.optional] (giveText (Text.trimStart Text.isBlank content))
  | "rstrip" => calls [.optional] (giveText (Text.trimEnd Text.isBlank content))
  | "strip" => calls [.optional] (giveText (Text.strip content))
  | "split" => calls [.optional, .optional] (giveTexts (Text.words content))
  | "rsplit" => calls [.optional, .optional] (giveTexts (Text.words content))
  | "splitlines" =>
      calls [.optional]
        (giveTexts (Text.splitLines Text.isLineEnd (fun c d => c = '\r' && d = '\n') content))
  | "swapcase" => calls [] (giveText (Text.swapCase content))
  | "title" => calls [] (giveText (Text.titleCase content))
  | "upper" => calls [] (giveText (Text.upper content))
  | "center" | "ljust" | "rjust" => needs [.positional, .optional]
  | "join" | "partition" | "removeprefix" | "removesuffix" | "rpartition" | "translate"
  | "zfill" => needs [.positional]
  | "replace" => needs [.positional, .positional, .optional]
  | _ => none

def isBlankOctet (octet : UInt8) : Bool := octet == 32 || (9 ≤ octet && octet ≤ 13)

/-- The members that octets and buffers share; `give` makes a value of the same type. -/
def octetsMember? (give : List UInt8 → Access Value) (content : List UInt8) (name : String) :
    Option Builtin :=
  let giveEach := fun (pieces : List (List UInt8)) => do
    let items ← pieces.mapM give
    (newList items : Access Value)
  match name with
  | "decode" =>
      calls [.optional, .optional]
        (match Text.decodeStrict content with
        | some text => pure (.text text)
        | none => fail .undecodable)
  | "expandtabs" =>
      calls [.optional]
        (give (Text.expandTabs (· == 9) (fun b => b == 10 || b == 13) 32 0 content))
  | "lstrip" => calls [.optional] (give (Text.trimStart isBlankOctet content))
  | "rstrip" => calls [.optional] (give (Text.trimEnd isBlankOctet content))
  | "strip" => calls [.optional] (give (Text.trim isBlankOctet content))
  | "split" => calls [.optional, .optional] (giveEach (Text.runs isBlankOctet content))
  | "rsplit" => calls [.optional, .optional] (giveEach (Text.runs isBlankOctet content))
  | "splitlines" =>
      calls [.optional]
        (giveEach (Text.splitLines (fun b => b == 10 || b == 13)
          (fun b c => b == 13 && c == 10) content))
  | "center" | "ljust" | "rjust" => needs [.positional, .optional]
  | "fromhex" | "join" | "partition" | "removeprefix" | "removesuffix" | "rpartition" | "zfill" =>
      needs [.positional]
  | "maketrans" => needs [.positional, .positional]
  | "replace" => needs [.positional, .positional, .optional]
  | "translate" => needs [.positional, .optional]
  | _ => none

def bitLength (n : Nat) : Nat := if n = 0 then 0 else n.log2 + 1

def bitCount (n : Nat) : Nat := (Nat.toDigits 2 n).count '1'

def intMember? (n : Int) (name : String) : Option Builtin :=
  match name with
  | "real" => reads (pure (.int n))
  | "imag" => reads (pure (.int 0))
  | "numerator" => reads (pure (.int n))
  | "denominator" => reads (pure (.int 1))
  | "as_integer_ratio" => calls [] (pure (.tuple [.int n, .int 1]))
  | "bit_count" => calls [] (pure (.int (bitCount n.natAbs)))
  | "bit_length" => calls [] (pure (.int (bitLength n.natAbs)))
  | "to_bytes" =>
      calls [.optional, .optional, .optionalKeyword]
        (if 0 ≤ n && n < 256 then pure (.octets [UInt8.ofNat n.toNat])
        else fail .octetOutOfRange)
  | "from_bytes" => needs [.required, .optional, .optionalKeyword]
  | _ => none

def floatMember? (x : Double) (cell : Nat) (name : String) : Option Builtin :=
  match name with
  | "real" => reads (pure (.float x cell))
  | "imag" => reads (newFloat (Double.zero false))
  | "conjugate" => calls [] (pure (.float x cell))
  | "hex" => calls [] (pure (.text x.toHexText))
  | "is_integer" => calls [] (pure (.bool x.isInteger))
  | "as_integer_ratio" =>
      calls [] (match x.ratio?, x.view with
        | some (numerator, denominator), _ => pure (.tuple [.int numerator, .int denominator])
        | none, .nan => fail .ratioOfNan
        | none, _ => fail .infiniteRatio)
  | "fromhex" => needs [.positional]
  | _ => none

def complexMember? (real imaginary : Double) (name : String) : Option Builtin :=
  match name with
  | "real" => reads (newFloat real)
  | "imag" => reads (newFloat imaginary)
  | "conjugate" => calls [] (newComplex real imaginary.negate)
  | _ => none

def giveExact (result : Except ContextFault Exact) : Access Value :=
  match result with
  | .ok value => newDecimal value
  | .error cause => fail (.arithmetic cause)

def exactRatio : Exact → Access Value
  | .nan _ _ _ => fail .ratioOfNan
  | .infinite _ => fail .infiniteRatio
  | .finite value =>
      let numerator := value.digits * Nat.pow 10 value.exponent.toNat
      let denominator := Nat.pow 10 (-value.exponent).toNat
      let divisor := Nat.gcd numerator denominator
      let reduced : Int := (numerator / divisor : Nat)
      pure (.tuple [.int (if value.negative then -reduced else reduced),
        .int (denominator / divisor : Nat)])

/-- A tuple whose parts have names. Its text names them, too. -/
def giveNamed (type : String) (parts : List (String × Value)) (texts : List String) :
    Access Value := do
  let cell ← newCounter
  let written := parts.zip texts |>.map fun (part, text) => part.1 ++ "=" ++ text
  let text := type ++ "(" ++ ", ".intercalate written ++ ")"
  return .object ⟨cell, parts, [], [], some (parts.map (·.2)), none, some parts.length, text, text,
    none⟩

/-- The sign, the digits and the exponent of a decimal. What has no exponent has a letter for it. -/
def exactParts (value : Exact) : Access Value :=
  let sign := if value.isNegative then 1 else 0
  let give := fun (digits : List Char) (exponent : Value) (text : String) =>
    let numbers : List Nat := digits.map fun c => digitsValue [c]
    let written := numbers.map toString
    let listed := match written with
      | [digit] => "(" ++ digit ++ ",)"
      | digits => "(" ++ ", ".intercalate digits ++ ")"
    giveNamed "DecimalTuple"
      [("sign", .int sign), ("digits", .tuple (numbers.map fun (digit : Nat) => .int digit)),
        ("exponent", exponent)]
      [toString sign, listed, text]
  match value with
  | .finite value =>
      give (Nat.toDigits 10 value.digits) (.int value.exponent) (toString value.exponent)
  | .infinite _ => give ['0'] (.text "F") "'F'"
  | .nan _ signalling payload =>
      let letter := if signalling then "N" else "n"
      give payload (.text letter) ("'" ++ letter ++ "'")

def decimalMember? (value : Exact) (cell : Nat) (name : String) : Option Builtin :=
  match name with
  | "real" => reads (pure (.decimal value cell))
  | "imag" => reads (newDecimal (.ofInt 0))
  | "adjusted" => calls [] (pure (.int value.adjusted))
  | "as_integer_ratio" => calls [] (exactRatio value)
  | "as_tuple" => calls [] (exactParts value)
  | "canonical" => calls [] (pure (.decimal value cell))
  | "conjugate" => calls [] (pure (.decimal value cell))
  | "copy_abs" => calls [] (newDecimal (value.withSign false))
  | "copy_negate" => calls [] (newDecimal (value.withSign !value.isNegative))
  | "exp" => calls [.optional] (giveExact value.exp)
  | "is_canonical" => calls [] (pure (.bool true))
  | "is_finite" => calls [] (pure (.bool value.isFinite))
  | "is_infinite" => calls [] (pure (.bool value.isInfinite))
  | "is_nan" => calls [] (pure (.bool value.isNan))
  | "is_normal" => calls [.optional] (pure (.bool value.isNormal))
  | "is_qnan" => calls [] (pure (.bool (value.isNan && !value.isSignalling)))
  | "is_signed" => calls [] (pure (.bool value.isNegative))
  | "is_snan" => calls [] (pure (.bool value.isSignalling))
  | "is_subnormal" => calls [.optional] (pure (.bool value.isSubnormal))
  | "is_zero" => calls [] (pure (.bool value.isZero))
  | "ln" => calls [.optional] (giveExact value.ln)
  | "log10" => calls [.optional] (giveExact value.log10)
  | "logb" => calls [.optional] (giveExact value.logb)
  | "logical_invert" => calls [.optional] (giveExact value.invert)
  | "next_minus" => calls [.optional] (giveExact (value.next true))
  | "next_plus" => calls [.optional] (giveExact (value.next false))
  | "normalize" => calls [.optional] (giveExact value.normalize)
  | "number_class" => calls [.optional] (pure (.text value.className))
  | "radix" => calls [] (newDecimal (.ofInt 10))
  | "sqrt" => calls [.optional] (giveExact value.sqrt)
  | "to_eng_string" => calls [.optional] (pure (.text value.toEngineeringText))
  | "to_integral" | "to_integral_exact" | "to_integral_value" =>
      calls [.optional, .optional] (giveExact value.toIntegral)
  | "compare" | "compare_signal" | "compare_total" | "compare_total_mag" | "copy_sign"
  | "logical_and" | "logical_or" | "logical_xor" | "max" | "max_mag" | "min" | "min_mag"
  | "next_toward" | "remainder_near" | "rotate" | "same_quantum" | "scaleb" | "shift" =>
      needs [.required, .optional]
  | "fma" => needs [.required, .required, .optional]
  | "from_float" => needs [.positional]
  | "quantize" => needs [.required, .optional, .optional]
  | _ => none

/-- The quotient nearest to another one among those whose denominator is within the limit; of two
equally near ones that with the smaller denominator. The quotients on the way approach from both
sides: `(p, q)` is the last of them and `(p', q')` the one before. -/
def nearestFraction (limit : Nat) (numerator : Int) (denominator : Nat) :
    (fuel : Nat) → (n : Int) → (d : Nat) → (p' : Int) → (q' : Nat) → (p : Int) → (q : Nat) →
    Int × Nat
  | 0, _, _, _, _, p, q => (p, q)
  | fuel + 1, n, d, p', q', p, q =>
      let whole := Int.fdiv n d
      let next := q' + (whole * q).toNat
      if d = 0 then (p, q)
      else if next > limit then
        let steps := (limit - q') / q
        let lower := p' + steps * p
        let below := q' + steps * q
        let distance := fun (a : Int) (b : Nat) => (a * denominator - numerator * b).natAbs
        if distance p q * below ≤ distance lower below * q then (p, q) else (lower, below)
      else
        nearestFraction limit numerator denominator fuel d (n - whole * d).toNat p q
          (p' + whole * p) next

def fractionLimit : Nat := 1000000

def fractionMember? (numerator : Int) (denominator : Nat) (name : String) : Option Builtin :=
  match name with
  | "real" => reads (pure (.fraction numerator denominator))
  | "conjugate" => calls [] (pure (.fraction numerator denominator))
  | "imag" => reads (pure (.int 0))
  | "numerator" => reads (pure (.int numerator))
  | "denominator" => reads (pure (.int denominator))
  | "as_integer_ratio" => calls [] (pure (.tuple [.int numerator, .int denominator]))
  | "limit_denominator" =>
      let (p, q) :=
        if denominator ≤ fractionLimit then (numerator, denominator)
        else nearestFraction fractionLimit numerator denominator (2 * denominator.log2 + 4)
          numerator denominator 0 1 1 0
      calls [.optional] (pure (.fraction p q))
  | "from_decimal" | "from_float" => needs [.required]
  | _ => none

def reorder (cell : Nat) (change : Array Nat → Array Nat) : Access Value := do
  modify fun store => store.setOrder cell (change (store.order cell))
  return .null

def popLast {α : Type} (items : List α) (cell : Nat) (give : α → Value) : Access Value := do
  let order := (← get).order cell
  match order.back? with
  | none => fail .emptyPop
  | some index =>
      modify fun store => store.setOrder cell order.pop
      match items[index]? with
      | none => fail .emptyPop
      | some item => return give item

/-- Sorts the items that are left. If some of them have no order, all stay in the order that they
have by then. -/
def sortList (items : List Value) (cell : Nat) : Access Value := do
  let store ← get
  let pool := items.toArray
  let less := fun (i j : Nat) =>
    match pool[i]?, pool[j]? with
    | some item, some other => item.less store other
    | _, _ => .ok false
  let (order, failure) := Sort.sort less (store.order cell).toList
  set (store.setOrder cell order.toArray)
  match failure with
  | some fault => throw fault
  | none => return .null

def searchMember? (name : String) : Option Builtin :=
  match name with
  | "count" => needs [.positional]
  | "index" => needs [.positional, .optional, .optional]
  | _ => none

def listMember? (items : List Value) (cell : Nat) (name : String) : Option Builtin :=
  match name with
  | "clear" => calls [] (reorder cell fun _ => #[])
  | "copy" => calls [] (do newList ((← get).held items cell))
  | "pop" => calls [.optional] (popLast items cell id)
  | "reverse" => calls [] (reorder cell Array.reverse)
  | "sort" => calls [.optionalKeyword, .optionalKeyword] (sortList items cell)
  | "append" | "extend" | "remove" => needs [.positional]
  | "insert" => needs [.positional, .positional]
  | _ => searchMember? name

def setMember? (name : String) : Option Builtin :=
  match name with
  | "issubset" | "issuperset" => needs [.positional]
  | _ => none

def ownBufferMember? (content : List UInt8) (cell : Nat) (name : String) : Option Builtin :=
  match name with
  | "clear" => calls [] (reorder cell fun _ => #[])
  | "copy" => calls [] (do newBuffer ((← get).held content cell))
  | "pop" => calls [.optional] (popLast content cell fun octet => .int octet.toNat)
  | "reverse" => calls [] (reorder cell Array.reverse)
  | "append" | "extend" | "remove" => needs [.positional]
  | "insert" => needs [.positional, .positional]
  | _ => none

/-- What a buffer shares with octets is about the content that it has when it is asked. -/
def bufferMember? (content : List UInt8) (cell : Nat) (name : String) : Option Builtin :=
  let shared := fun (content : List UInt8) =>
    octetsMember? (fun octets => newBuffer octets) content name
  match ownBufferMember? content cell name, shared [] with
  | some own, _ => some own
  | none, some (.routine params _) =>
      calls params do
        match shared ((← get).held content cell) with
        | some (.routine _ action) => action
        | _ => return .missing
  | none, _ => none

def rangeMember? (start stop step : Int) (name : String) : Option Builtin :=
  match name with
  | "start" => reads (pure (.int start))
  | "stop" => reads (pure (.int stop))
  | "step" => reads (pure (.int step))
  | _ => none

def oneDay : Access Value := do
  let cell ← newCounter
  return .object ⟨cell, [("days", .int 1), ("seconds", .int 0), ("microseconds", .int 0)], [], [],
    none, none, none, "datetime.timedelta(days=1)", "1 day, 0:00:00", none⟩

def dateMember? (year month day : Nat) (name : String) : Option Builtin :=
  match name with
  | "year" => reads (pure (.int year))
  | "month" => reads (pure (.int month))
  | "day" => reads (pure (.int day))
  | "min" => reads (pure (.date 1 1 1))
  | "max" => reads (pure (.date 9999 12 31))
  | "resolution" => reads oneDay
  | "fromtimestamp" => needs [.positional]
  | _ => none

/-- An array is measured by a routine, and asked for its items by another one. -/
def arrayMember? (items : List Value) (name : String) : Option Builtin :=
  match name with
  | "length" => calls [] (pure (.int items.length))
  | "opt" => needs [.required]
  | _ => none

/-- The member of a value that is neither a mapping nor an object of host code. -/
def Value.member? (value : Value) (name : String) : Option Builtin :=
  match value with
  | .text content => textMember? content.toList name
  | .bool value => intMember? (if value then 1 else 0) name
  | .int value => intMember? value name
  | .float value cell => floatMember? value cell name
  | .decimal value cell => decimalMember? value cell name
  | .complex real imaginary _ => complexMember? real imaginary name
  | .fraction numerator denominator => fractionMember? numerator denominator name
  | .octets content => octetsMember? (fun octets => pure (.octets octets)) content name
  | .buffer content cell => bufferMember? content cell name
  | .tuple _ => searchMember? name
  | .set _ => setMember? name
  | .list items cell => listMember? items cell name
  | .range start stop step => rangeMember? start stop step name
  | .date year month day => dateMember? year month day name
  | .array _ items _ => arrayMember? items name
  | _ => none

end Mustache
