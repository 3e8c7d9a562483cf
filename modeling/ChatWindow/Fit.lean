import ChatWindow.Failure
import ChatWindow.Value.Equal

/-!
# Fit failures

A fit failure has a message, may stand for another failure, and keeps details that can be asked
for by name. The failure of a message with too many images makes its message from three of them.
-/

namespace ChatWindow.Failure

def callee (kind : FitKind) : String := kind.label ++ ".__init__"

def build (kind : FitKind) (message : Option String) (cause : Option Failure)
    (details : Fields) : Except Failure Failure :=
  match message with
  | none =>
    match details.get? "message" with
    | some v => .ok (.fit kind v.display (details.erase "message") cause)
    | none => .error (.badArguments (.missing (callee .general) "positional" "message" []))
  | some message =>
    match details.find? fun p => p.1 == .plain "message" || p.1 == .plain "self" with
    | some p => .error (.badArguments (.multiple (callee .general) p.1.shown))
    | none => .ok (.fit kind message details cause)

def imageDetails : List String := ["message_index", "image_count", "max_images"]

def imageMessage (index count limit : Value) : String :=
  let noun := if limit.equal (.int 1) then "image" else "images"
  s!"this model only supports {limit.display} {noun} per message " ++
    s!"while {count.display} were requested (message {index.display})"

def tooManyImages (index count : Nat) (limit : Value) : Failure :=
  .fit .tooManyImages (imageMessage (.int index) (.int count) limit)
    [("message_index", .int index), ("image_count", .int count), ("max_images", limit)] none

def buildTooManyImages (first : Option String) (cause : Option Failure) (details : Fields) :
    Except Failure Failure :=
  let named := match first with
    | some s => ("message_index", Value.text s) :: details
    | none => details
  if first.isSome && (details.get? "message_index").isSome then
    .error (.badArguments (.multiple (callee .tooManyImages) "message_index"))
  else
    match imageDetails.filter fun name : String => (named.get? name).isNone with
    | missing :: others =>
      .error (.badArguments (.missing (callee .tooManyImages) "positional" missing others))
    | [] =>
      let message := imageMessage (named.getD "message_index") (named.getD "image_count")
        (named.getD "max_images")
      build .tooManyImages (some message) cause named

def construct (kind : FitKind) (message : Option String) (cause : Option Failure)
    (details : Fields) : Except Failure Failure :=
  match kind with
  | .tooManyImages => buildTooManyImages message cause details
  | kind => build kind message cause details

def ofLabel (label message : String) : Failure :=
  let fit (kind : FitKind) : Failure :=
    match construct kind (some message) none [] with
    | .ok f => f
    | .error f => f
  match label with
  | "ValueError" => .raised .value message
  | "RuntimeError" => .raised .runtime message
  | "KeyError" => .raised .key message
  | "CancelledError" => .raised .cancelled message
  | "ConfigurationError" => fit .configuration
  | "TokenizeError" => fit .tokenize
  | "RenderError" => fit .render
  | "UnsupportedMultiImageError" => fit .tooManyImages
  | _ => fit .general

def detail (f : Failure) (name : String) : Except Failure Value :=
  match f with
  | .fit kind _ details _ =>
    match details.get? name with
    | some v => .ok v
    | none => .error (.noDetail kind.label name)
  | f => .error (.noAttribute f.label name)

end ChatWindow.Failure
