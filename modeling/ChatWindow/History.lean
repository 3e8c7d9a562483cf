import ChatWindow.Run
import ChatWindow.Message.Record
import ChatWindow.Text.Search

/-!
# Histories

An agent keeps its history as requests and responses, each made of parts. Every supported part of
a request becomes one message, and every response becomes one message of the assistant. What is
not supported is left out, and logged if it is part of a request.
-/

namespace ChatWindow

inductive ContentItem where
  | text (s : Text)
  | binary (data : Bytes) (mediaType : String)
  | other (name : String)

inductive UserContent where
  | text (s : Text)
  | items (xs : List ContentItem)

inductive RetryContent where
  | text (s : Text)
  | problems (xs : List Value)

inductive RequestPart where
  | system (text : Text)
  | user (content : UserContent)
  | toolReturn (tool content : Value) (failed : Bool)
  /-- A tool that is null stands for none. -/
  | retry (tool : Value) (content : RetryContent)
  | unsupported (name : String)

inductive ResponsePart where
  | text (s : Text)
  | toolCall (name arguments id : Value)
  | other

inductive Turn where
  | request (instructions : Text) (parts : List RequestPart)
  | response (parts : List ResponsePart)
  | other

/-- What the library that keeps a history has to say of its parts: the text of what a tool returned
and of a request to try again, and whether data is an image. -/
structure Parlance where
  returned : (tool content : Value) → (failed : Bool) → Text
  retried : (tool : Value) → RetryContent → Text
  isImage : (data : Bytes) → (mediaType : String) → Bool

variable (p : Parlance)

namespace ContentItem

def text? : ContentItem → Option Text
  | .text s => some s
  | _ => none

def image? : ContentItem → Option Bytes
  | .binary data mediaType => if p.isImage data mediaType then some data else none
  | _ => none

def skipped? : ContentItem → Option String
  | .text _ => none
  | .binary data mediaType => if p.isImage data mediaType then none else some "BinaryContent"
  | .other name => some name

end ContentItem

namespace UserContent

def message : UserContent → Message
  | .text s => .ofText .user s
  | .items xs =>
    { Message.ofText .user (Text.intercalate "\n" (xs.filterMap ContentItem.text?)) with
      images := (xs.filterMap (ContentItem.image? p)).map .bytes }

def events : UserContent → List Event
  | .text _ => []
  | .items xs => (xs.filterMap (ContentItem.skipped? p)).map .contentSkipped

end UserContent

namespace RequestPart

def toolMessage (tool : Value) (text : Text) : Message :=
  { Message.ofText .tool text with toolName := tool }

def message? : RequestPart → Option Message
  | .system text => some (.ofText .system text)
  | .user content => some (content.message p)
  | .toolReturn tool content failed => some (toolMessage tool (p.returned tool content failed))
  | .retry tool content =>
    if tool.isNull then some (.ofText .user (p.retried tool content))
    else some (toolMessage tool (p.retried tool content))
  | .unsupported _ => none

def events : RequestPart → List Event
  | .user content => content.events p
  | .unsupported name => [.partSkipped name]
  | _ => []

end RequestPart

namespace ResponsePart

def keyText (v : Value) : Except Failure Text :=
  match v with
  | .text s => .ok s
  | .list _ | .record _ => .error (.badKind (.unhashable v.kind))
  | v => .ok (Json.renderCompact v)

def pair (index : Nat) (v : Value) : Except Failure (Text × Value) :=
  match v.items? with
  | none => .error (.badKind (.pairKind index))
  | some [k, w] => (keyText k).map fun key => (key, w)
  | some xs => .error (.badValue (.pairLength index xs.length))

def pairsFrom (index : Nat) : List Value → Except Failure (List (Text × Value))
  | [] => .ok []
  | v :: rest => do
    let p ← pair index v
    return p :: (← pairsFrom (index + 1) rest)

/-- Arguments are a record. JSON text of anything else becomes a record with that value. -/
def argumentRecord (v : Value) : Except Failure Value :=
  match v with
  | .null => .ok (.record [])
  | .text s =>
    if s.codes.all Code.isBlank then .ok (.record [])
    else
      match Json.parse s with
      | .error f => .error (.badJson f)
      | .ok (.record fields) => .ok (.record fields)
      | .ok w => .ok (.record [("value", w)])
  | .record fields => .ok (.record fields)
  | v => do
    let pairs ← pairsFrom 0 (← v.items)
    return .record (Fields.ofList pairs)

def text? : ResponsePart → Option Text
  | .text s => some s
  | _ => none

def calls : List ResponsePart → Except Failure (List ToolCall)
  | [] => .ok []
  | .toolCall name arguments id :: rest => do
    let arguments ← argumentRecord arguments
    return ⟨name, arguments, id⟩ :: (← calls rest)
  | _ :: rest => calls rest

end ResponsePart

namespace Turn

def instructionMessages (instructions : Text) : List Message :=
  if instructions = "" then [] else [.ofText .system instructions]

def responseMessage (parts : List ResponsePart) : Except Failure Message := do
  let toolCalls ← ResponsePart.calls parts
  return { Message.ofText .assistant (Text.join (parts.filterMap ResponsePart.text?)) with
    toolCalls }

def messages : Turn → Except Failure (List Message)
  | .request instructions parts =>
    .ok (instructionMessages instructions ++ parts.filterMap (RequestPart.message? p))
  | .response parts => (responseMessage parts).map fun m => [m]
  | .other => .ok []

def events : Turn → List Event
  | .request _ parts => parts.flatMap (RequestPart.events p)
  | _ => []

end Turn

namespace History

def messages : List Turn → Except Failure (List Message)
  | [] => .ok []
  | t :: rest => do
    let ms ← t.messages p
    return ms ++ (← messages rest)

def events (history : List Turn) : List Event := history.flatMap (Turn.events p)

end History

/-! ## The texts of one such library -/

def returnText (content : Value) (failed : Bool) : Text :=
  let text : Text := match content with
    | .text s => s
    | .null => ""
    | .list [] => ""
    | v => Json.renderCompact v
  if failed then Json.renderCompact (.record [("error", .text text)]) else text

namespace RetryContent

def pathLength : Value → Nat
  | .list xs => xs.length
  | _ => 0

def shownProblem (forTool : Bool) : Value → Value
  | .record fields =>
    let fields := Fields.erase fields "ctx"
    if forTool || 1 < pathLength (Fields.getD fields "loc") then .record fields
    else .record (fields.erase "input")
  | v => v

def description (forTool : Bool) : RetryContent → Text
  | .text s => if forTool then s else Text.plain "Validation feedback:\n" ++ s
  | .problems xs =>
    let noun := if xs.length = 1 then "error" else "errors"
    let body := Json.renderIndented (.list (xs.map (shownProblem forTool)))
    Text.plain (s!"{xs.length} validation {noun}:\n" ++ "```json\n") ++ body ++ "\n```"

def prompt (forTool : Bool) (c : RetryContent) : Text :=
  c.description forTool ++ "\n\nFix the errors and try again."

end RetryContent

def isImageType (mediaType : String) : Bool :=
  (Text.after? "image/".toList mediaType.toList).isSome

namespace Parlance

def compactJson : Parlance where
  returned := fun _ content failed => returnText content failed
  retried := fun tool content => content.prompt !tool.isNull
  isImage := fun _ mediaType => isImageType mediaType

end Parlance

end ChatWindow
