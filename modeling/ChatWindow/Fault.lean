import ChatWindow.Text
import ChatWindow.Value

/-!
# Faults

What can be wrong with a value, a call, a format, a text or a field, and what is said of it.
-/

/-! ## Values of the wrong kind

What is said of a value that cannot be used in the way it was. The kinds are named by their words.
-/

namespace ChatWindow

inductive KindFault where
  | notIterable (kind : String)
  | notOrdered (sign left right : String)
  | badOperands (sign left right : String)
  | badOperand (sign kind : String)
  | unhashable (kind : String)
  | notSubscriptable (kind : String)
  | badIndex (container index : String)
  | badTextIndex (index : String)
  | notInteger (kind : String)
  | notConvertible (kind : String)
  | notNumber (kind : String)
  | notBytes (kind : String)
  | notJson (kind : String)
  | notContainer (kind : String)
  | notJoined (kind : String)
  | notWhole (kind : String)
  | notFormattable (kind : String)
  | notCallable (kind : String)
  | noLength (kind : String)
  | fieldNameKind
  | pairKind (index : Nat)
  deriving DecidableEq

def KindFault.message : KindFault → String
  | .notIterable kind => s!"'{kind}' object is not iterable"
  | .notOrdered sign left right =>
    s!"'{sign}' not supported between instances of '{left}' and '{right}'"
  | .badOperands sign left right =>
    s!"unsupported operand type(s) for {sign}: '{left}' and '{right}'"
  | .badOperand sign kind => s!"bad operand type for unary {sign}: '{kind}'"
  | .unhashable kind => s!"unhashable type: '{kind}'"
  | .notSubscriptable kind => s!"'{kind}' object is not subscriptable"
  | .badIndex container index => s!"{container} indices must be integers or slices, not {index}"
  | .badTextIndex index => s!"string indices must be integers, not '{index}'"
  | .notInteger kind => s!"'{kind}' object cannot be interpreted as an integer"
  | .notConvertible kind => s!"cannot convert '{kind}' object to bytes"
  | .notNumber kind =>
    s!"int() argument must be a string, a bytes-like object or a real number, not '{kind}'"
  | .notBytes kind => s!"a bytes-like object is required, not '{kind}'"
  | .notJson kind => s!"Object of type {kind} is not JSON serializable"
  | .notContainer kind => s!"argument of type '{kind}' is not iterable"
  | .notJoined kind => s!"can only concatenate str (not \"{kind}\") to str"
  | .notWhole kind => s!"__int__ returned non-int (type {kind})"
  | .notFormattable kind => s!"unsupported format string passed to {kind}.__format__"
  | .notCallable kind => s!"'{kind}' object is not callable"
  | .noLength kind => s!"object of type '{kind}' has no len()"
  | .fieldNameKind => "keywords must be strings"
  | .pairKind index => s!"cannot convert dictionary update sequence element #{index} to a sequence"

/-! ## Arguments that do not match

A call names the arguments that it takes. Some of them have to be given. -/

inductive ArgumentFault where
  | missing (callee kind : String) (first : String) (others : List String)
  | unexpected (callee name : String)
  | multiple (callee name : String)
  deriving DecidableEq

def quotedNames (names : List String) : String :=
  let quoted := names.map fun n => "'" ++ n ++ "'"
  match quoted.reverse with
  | [] => ""
  | [a] => a
  | [b, a] => a ++ " and " ++ b
  | last :: front => ", ".intercalate front.reverse ++ ", and " ++ last

def ArgumentFault.message : ArgumentFault → String
  | .missing callee kind first others =>
    let names := first :: others
    let noun := if others.isEmpty then "argument" else "arguments"
    let list := quotedNames names
    s!"{callee}() missing {names.length} required {kind} {noun}: {list}"
  | .unexpected callee name => s!"{callee}() got an unexpected keyword argument '{name}'"
  | .multiple callee name => s!"{callee}() got multiple values for argument '{name}'"

/-! ## Faults in a tag format

A tag format is literal text with fields in braces. A field names a value, perhaps a part of it,
perhaps a conversion, and after a colon how the value is to be laid out. -/

inductive LayoutFault where
  | loneOpening
  | loneClosing
  | unfinished
  | openingInName
  | unmatched
  | conversionEnd
  | conversionColon
  | unknownConversion (c : Char)
  | emptyAttribute
  | unclosedBracket
  | afterBracket
  | tooDeep
  | tooManyDigits
  | badSpec (spec kind : String)
  | unknownCode (code : Char) (kind : String)
  | missingPrecision
  | bothSeparators
  | separatorWith (separator code : Char)
  | precisionForInteger
  | zeroSignForInteger
  | signForCharacter
  | alternateForCharacter
  | signForText
  | spaceForText
  | zeroSignForText
  | alternateForText
  | alignmentForText
  deriving DecidableEq

def visible (c : Char) : String :=
  if 32 < c.toNat ∧ c.toNat < 127 then c.toString
  else "\\x" ++ String.ofList (Nat.toDigits 16 c.toNat)

def LayoutFault.message : LayoutFault → String
  | .loneOpening => "Single '\x7b' encountered in format string"
  | .loneClosing => "Single '\x7d' encountered in format string"
  | .unfinished => "expected '\x7d' before end of string"
  | .openingInName => "unexpected '\x7b' in field name"
  | .unmatched => "unmatched '\x7b' in format spec"
  | .conversionEnd => "end of string while looking for conversion specifier"
  | .conversionColon => "expected ':' after conversion specifier"
  | .unknownConversion c => "Unknown conversion specifier " ++ visible c
  | .emptyAttribute => "Empty attribute in format string"
  | .unclosedBracket => "Missing ']' in format string"
  | .afterBracket => "Only '.' or '[' may follow ']' in format field specifier"
  | .tooDeep => "Max string recursion exceeded"
  | .tooManyDigits => "Too many decimal digits in format string"
  | .badSpec spec kind => s!"Invalid format specifier '{spec}' for object of type '{kind}'"
  | .unknownCode code kind => s!"Unknown format code '{visible code}' for object of type '{kind}'"
  | .missingPrecision => "Format specifier missing precision"
  | .bothSeparators => "Cannot specify both ',' and '_'."
  | .separatorWith separator code => s!"Cannot specify '{separator}' with '{visible code}'."
  | .precisionForInteger => "Precision not allowed in integer format specifier"
  | .zeroSignForInteger => "Negative zero coercion (z) not allowed in integer format specifier"
  | .signForCharacter => "Sign not allowed with integer format specifier 'c'"
  | .alternateForCharacter => "Alternate form (#) not allowed with integer format specifier 'c'"
  | .signForText => "Sign not allowed in string format specifier"
  | .spaceForText => "Space not allowed in string format specifier"
  | .zeroSignForText => "Negative zero coercion (z) not allowed in string format specifier"
  | .alternateForText => "Alternate form (#) not allowed in string format specifier"
  | .alignmentForText => "'=' alignment not allowed in string format specifier"

/-! ## Faults in marked text

A closing tag without an opening one, and where in the text it stands. -/

inductive MarkupFault where
  | notOpened (tag : String) (position : Nat)
  | nothingOpen (position : Nat)
  deriving DecidableEq

def MarkupFault.message : MarkupFault → String
  | .notOpened tag position =>
    s!"closing tag '{tag}' at position {position} doesn't match any open tag"
  | .nothingOpen position => s!"closing tag '[/]' at position {position} has nothing to close"

/-! ## Faults in a log message

A log message has its arguments put in for directives that start with a percent sign. -/

inductive SizeName where
  | width
  | precision
  deriving DecidableEq

def SizeName.name : SizeName → String
  | .width => "width"
  | .precision => "precision"

def SizeName.bits : SizeName → Nat
  | .width => 64
  | .precision => 32

def SizeName.word : SizeName → String
  | .width => "C ssize_t"
  | .precision => "C int"

inductive PercentFault where
  | incomplete
  | incompleteKey
  | noMapping
  | tooFewArguments
  | tooManyArguments
  | starKind
  | sizeTooBig (size : SizeName)
  | unknownDirective (c : Code) (index : Nat)
  | notReal (c : Char) (kind : String)
  | notInteger (c : Char) (kind : String)
  | notFloat (kind : String)
  | notCharacter
  | badStyle (format : String)
  deriving DecidableEq

/-- Whether the fault lies in the message, and not in the kinds and number of its arguments. -/
def PercentFault.inMessage : PercentFault → Bool
  | .incomplete | .incompleteKey | .sizeTooBig _ | .unknownDirective .. | .badStyle _ => true
  | _ => false

def PercentFault.message : PercentFault → String
  | .incomplete => "incomplete format"
  | .incompleteKey => "incomplete format key"
  | .noMapping => "format requires a mapping"
  | .tooFewArguments => "not enough arguments for format string"
  | .tooManyArguments => "not all arguments converted during string formatting"
  | .starKind => "* wants int"
  | .sizeTooBig size => s!"{size.name} too big"
  | .unknownDirective c index =>
    let code := String.ofList (Nat.toDigits 16 c.toNat)
    let shown := if 31 ≤ c.toNat ∧ c.toNat ≤ 126 then c.char?.getD '?' else '?'
    s!"unsupported format character '{shown}' (0x{code}) at index {index}"
  | .notReal c kind => s!"%{c} format: a real number is required, not {kind}"
  | .notInteger c kind => s!"%{c} format: an integer is required, not {kind}"
  | .notFloat kind => s!"must be real number, not {kind}"
  | .notCharacter => "%c requires int or char"
  | .badStyle format => s!"Invalid format '{format}' for '%' style"

/-! ## What is wrong with a field

A field that is missing, of the wrong kind or out of bounds, and the way to it. -/

inductive FieldFault where
  | missing
  | intKind
  | intText
  | intFraction
  | intTooLarge
  | notFinite
  | greaterThan (bound : Int)
  | atLeast (bound : Int)
  | textKind
  | textTooShort (least : Nat)
  | textUnicode
  | notAmong (first : String) (others : List String)
  | boolKind
  | boolText
  | listKind
  | recordKind (model : String)
  | rule (reason : String)
  deriving DecidableEq

def FieldFault.code : FieldFault → String
  | .missing => "missing"
  | .intKind => "int_type"
  | .intText => "int_parsing"
  | .intFraction => "int_from_float"
  | .intTooLarge => "int_parsing_size"
  | .notFinite => "finite_number"
  | .greaterThan _ => "greater_than"
  | .atLeast _ => "greater_than_equal"
  | .textKind => "string_type"
  | .textTooShort _ => "string_too_short"
  | .textUnicode => "string_unicode"
  | .notAmong .. => "literal_error"
  | .boolKind => "bool_type"
  | .boolText => "bool_parsing"
  | .listKind => "list_type"
  | .recordKind _ => "model_type"
  | .rule _ => "value_error"

def quotedChoices (first : String) (others : List String) : String :=
  let quoted := (first :: others).map fun w => "'" ++ w ++ "'"
  match quoted.reverse with
  | [] => ""
  | [a] => a
  | last :: front => ", ".intercalate front.reverse ++ " or " ++ last

def FieldFault.message : FieldFault → String
  | .missing => "Field required"
  | .intKind => "Input should be a valid integer"
  | .intText => "Input should be a valid integer, unable to parse string as an integer"
  | .intFraction => "Input should be a valid integer, got a number with a fractional part"
  | .intTooLarge => "Unable to parse input string as an integer, exceeded maximum size"
  | .notFinite => "Input should be a finite number"
  | .greaterThan bound => s!"Input should be greater than {bound}"
  | .atLeast bound => s!"Input should be greater than or equal to {bound}"
  | .textKind => "Input should be a valid string"
  | .textTooShort least =>
    let noun := if least = 1 then "character" else "characters"
    s!"String should have at least {least} {noun}"
  | .textUnicode =>
    "Input should be a valid string, unable to parse raw data as a unicode string"
  | .notAmong first others => "Input should be " ++ quotedChoices first others
  | .boolKind => "Input should be a valid boolean"
  | .boolText => "Input should be a valid boolean, unable to interpret input"
  | .listKind => "Input should be a valid list"
  | .recordKind model => s!"Input should be a valid dictionary or instance of {model}"
  | .rule reason => s!"Value error, {reason}"

inductive PathStep where
  | field (name : String)
  | item (index : Nat)
  deriving DecidableEq

structure Problem where
  path : List PathStep
  fault : FieldFault
  deriving DecidableEq

def Problem.under (name : String) (p : Problem) : Problem :=
  { p with path := .field name :: p.path }

end ChatWindow
