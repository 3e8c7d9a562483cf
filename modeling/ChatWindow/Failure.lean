import ChatWindow.Base64
import ChatWindow.Fault
import ChatWindow.Json.Parser
import ChatWindow.Value.Display

/-!
# Failures

Everything that can stop a computation, by its cause. A fit failure is one that fitting a
conversation answers for itself: it keeps details and, where it stands for another failure, that
failure. A cancelled computation is never answered for.
-/

namespace ChatWindow

/-- What a class of failures that is defined elsewhere comes from, as far as it makes a difference:
from fit failures, from cancellations, from the sign that an iterator is exhausted, or from none of
these. -/
inductive Stock where
  | fit | cancelled | exhausted | plain
  deriving DecidableEq

inductive Category where
  | value | type | attribute | key | index | overflow | zeroDivision | runtime | cancelled
  | json | base64 | settings | yaml | toml | markup | validation
  | templateLookup | templateSyntax | templateAccess | templateUndefined
  | other (name : String) (stock : Stock)
  deriving DecidableEq

inductive FitKind where
  | general | configuration | tokenize | render | tooManyImages
  deriving DecidableEq

def Category.label : Category → String
  | .value => "ValueError"
  | .type => "TypeError"
  | .attribute => "AttributeError"
  | .key => "KeyError"
  | .index => "IndexError"
  | .overflow => "OverflowError"
  | .zeroDivision => "ZeroDivisionError"
  | .runtime => "RuntimeError"
  | .cancelled => "CancelledError"
  | .json => "JSONDecodeError"
  | .base64 => "Error"
  | .settings => "SettingsError"
  | .yaml => "YAMLError"
  | .toml => "TOMLDecodeError"
  | .markup => "MarkupError"
  | .validation => "ValidationError"
  | .templateLookup => "TemplateAssertionError"
  | .templateSyntax => "TemplateSyntaxError"
  | .templateAccess => "SecurityError"
  | .templateUndefined => "UndefinedError"
  | .other name _ => name

def FitKind.label : FitKind → String
  | .general => "PromptFitError"
  | .configuration => "ConfigurationError"
  | .tokenize => "TokenizeError"
  | .render => "RenderError"
  | .tooManyImages => "UnsupportedMultiImageError"

def FitKind.lineage (kind : FitKind) : List String :=
  (if kind = .general then [] else [kind.label]) ++
    [FitKind.general.label, "Exception", "BaseException"]

inductive NumberFault where
  | divisionByZero
  | realDivisionByZero
  | quotientTooLarge
  | tooLargeForReal
  | notANumber
  | infinite
  | badDigits (text : String)
  | characterRange
  | tooLargeForWord (word : String)
  deriving DecidableEq

def NumberFault.message : NumberFault → String
  | .divisionByZero => "integer division or modulo by zero"
  | .realDivisionByZero => "float floor division by zero"
  | .quotientTooLarge => "integer division result too large for a float"
  | .tooLargeForReal => "int too large to convert to float"
  | .notANumber => "cannot convert float NaN to integer"
  | .infinite => "cannot convert float infinity to integer"
  | .badDigits text => s!"invalid literal for int() with base 10: {text}"
  | .characterRange => "%c arg not in range(0x110000)"
  | .tooLargeForWord word => s!"Python int too large to convert to {word}"

def NumberFault.category : NumberFault → Category
  | .divisionByZero | .realDivisionByZero => .zeroDivision
  | .quotientTooLarge | .tooLargeForReal | .infinite | .characterRange | .tooLargeForWord _ =>
    .overflow
  | .notANumber | .badDigits _ => .value

/-- Values that no operation accepts, whatever their kind. -/
inductive ValueFault where
  | unknownRole (role : Value)
  | byteRange
  | negativeCount
  | negativeLimit
  | pairLength (index length : Nat)
  | unknownEncoding (name : String)

def ValueFault.message : ValueFault → String
  | .unknownRole role => s!"Unknown message role: {role.quoted}"
  | .byteRange => "bytes must be in range(0, 256)"
  | .negativeCount => "negative count"
  | .negativeLimit => "max_images must not be negative"
  | .pairLength index length =>
    s!"dictionary update sequence element #{index} has length {length}; 2 is required"
  | .unknownEncoding name =>
    "Unknown encoding " ++ name ++ ".\nPlugins found: ['tiktoken_ext.openai_public']\n" ++
      "tiktoken version: 0.14.0 (are you on latest?)"

inductive TemplateFault where
  | noFilter (name : String)
  | noExpression
  | unsafeAccess (name : String)
  | noField (name : String)
  deriving DecidableEq

def TemplateFault.message : TemplateFault → String
  | .noFilter name => s!"No filter named '{name}'."
  | .noExpression => "Expected an expression, got 'end of statement block'"
  | .unsafeAccess name => s!"access to attribute '{name}' of 'list' object is unsafe."
  | .noField name =>
    s!"'promptfit.conversation.message.Message object' has no attribute '{name}'"

def TemplateFault.category : TemplateFault → Category
  | .noFilter _ => .templateLookup
  | .noExpression => .templateSyntax
  | .unsafeAccess _ => .templateAccess
  | .noField _ => .templateUndefined

inductive Failure where
  | badKind (f : KindFault)
  | badArguments (f : ArgumentFault)
  | noAttribute (kind name : String)
  | noDetail (failure name : String)
  | missingKey (key : Value)
  | reservedField (name : String)
  | noPosition (index : Nat)
  | badNumber (f : NumberFault)
  | badValue (f : ValueFault)
  | badLayout (f : LayoutFault)
  | badMessage (f : PercentFault)
  | badJson (f : Json.Fault)
  | badBase64 (f : Base64.Fault)
  | badTemplate (f : TemplateFault)
  | badMarkup (f : MarkupFault)
  | settings (field source : String)
  | unreadable (language : Category)
  | invalid (title : String) (problems : List Problem)
  | raised (category : Category) (message : String)
  | fit (kind : FitKind) (message : String) (details : Fields) (cause : Option Failure)

namespace Failure

def category : Failure → Category
  | .badKind _ | .badArguments _ => .type
  | .noAttribute .. | .noDetail .. => .attribute
  | .missingKey _ | .reservedField _ => .key
  | .noPosition _ => .index
  | .badNumber f => f.category
  | .badValue _ | .badLayout _ => .value
  | .badMessage f => if f.inMessage then .value else .type
  | .badJson _ => .json
  | .badBase64 .notAscii => .value
  | .badBase64 _ => .base64
  | .badTemplate f => f.category
  | .badMarkup _ => .markup
  | .settings .. => .settings
  | .unreadable language => language
  | .invalid .. => .validation
  | .raised category _ => category
  | .fit .. => .runtime

def label : Failure → String
  | .fit kind _ _ _ => kind.label
  | f => f.category.label

def raisedMessage (category : Category) (message : String) : String :=
  if category = .key then Text.quoted message else message

def message : Failure → String
  | .badKind f => f.message
  | .badArguments f => f.message
  | .noAttribute kind name => s!"'{kind}' object has no attribute '{name}'"
  | .noDetail failure name =>
    let quoted := Text.quoted name
    s!"{failure} has no detail {quoted}"
  | .missingKey key => key.quoted
  | .reservedField name =>
    let quoted := Text.quoted name
    Text.quoted s!"Attempt to overwrite {quoted} in LogRecord"
  | .noPosition index => s!"Replacement index {index} out of range for positional args tuple"
  | .badNumber f => f.message
  | .badValue f => f.message
  | .badLayout f => f.message
  | .badMessage f => f.message
  | .badJson f => f.message
  | .badBase64 f => f.message
  | .badTemplate f => f.message
  | .badMarkup f => f.message
  | .settings field source => s!"error parsing value for field \"{field}\" from source \"{source}\""
  | .unreadable _ => ""
  | .invalid title problems => s!"{problems.length} validation errors for {title}"
  | .raised category message => raisedMessage category message
  | .fit _ message _ none => message
  | .fit _ message _ (some cause) => message ++ " (caused by: " ++ cause.message ++ ")"

def isFit : Failure → Bool
  | .fit .. | .raised (.other _ .fit) _ => true
  | _ => false

def isCancelled : Failure → Bool
  | .raised .cancelled _ | .raised (.other _ .cancelled) _ => true
  | _ => false

def isExhausted : Failure → Bool
  | .raised (.other _ .exhausted) _ => true
  | _ => false

/-- A failure as it comes out of a coroutine, where the sign that an iterator is exhausted would be
taken for the end of the coroutine itself. -/
def leaving (f : Failure) : Failure :=
  if f.isExhausted then .raised .runtime "coroutine raised StopIteration" else f

def passes (f : Failure) : Bool := f.isFit || f.isCancelled

/-- A fit failure that stands for another one, unless that one is to be handed on. -/
def wrap (f : Failure) (kind : FitKind) (message : String) (details : Fields) : Failure :=
  if f.passes then f else .fit kind message details (some f)

def notIterable (v : Value) : Failure := .badKind (.notIterable v.kind)

theorem wrap_of_passes {f : Failure} (h : f.passes = true) (kind : FitKind) (message : String)
    (details : Fields) : f.wrap kind message details = f := by simp [wrap, h]

theorem wrap_of_not_passes {f : Failure} (h : f.passes = false) (kind : FitKind)
    (message : String) (details : Fields) :
    f.wrap kind message details = .fit kind message details (some f) := by simp [wrap, h]

end Failure

/-! ## Named arguments

Whoever is called says which arguments have to be given and which may be. -/

def Fields.checkArguments (fields : Fields) (callee : String) (required optional : List String) :
    Except Failure Unit :=
  match fields.find? fun p => !(required ++ optional).any fun name => p.1 == .plain name with
  | some p => .error (.badArguments (.unexpected callee p.1.shown))
  | none =>
    match required.filter fun name : String => (fields.get? name).isNone with
    | first :: others => .error (.badArguments (.missing callee "positional" first others))
    | [] => .ok ()

end ChatWindow
