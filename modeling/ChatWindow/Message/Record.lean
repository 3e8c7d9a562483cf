import ChatWindow.Failure
import ChatWindow.Json.Printer
import ChatWindow.Text.Kinds
import ChatWindow.Message

/-!
# Messages as records

The record of a message has text in place of images (base 64) and of the arguments of a call
(JSON). Reading is lenient about fields that are absent, null or empty, and about how a call
is nested.
-/

namespace ChatWindow

def Value.items? : Value → Option (List Value)
  | .list xs => some xs
  | .text s => some (s.split.map .text)
  | .bytes b => some (b.map fun x => .int x.toNat)
  | .record fields => some (fields.map fun p => .text p.1)
  | _ => none

def Value.items (v : Value) : Except Failure (List Value) :=
  match v.items? with
  | some xs => .ok xs
  | none => .error (.notIterable v)

def Value.itemsOrNone (v : Value) : Except Failure (List Value) :=
  if v.truthy then v.items else .ok []

def Value.fieldsFor (v : Value) (use : String) : Except Failure Fields :=
  match v with
  | .record fields => .ok fields
  | _ => .error (.noAttribute v.kind use)

def Fields.required (fields : Fields) (key : Text) : Except Failure Value :=
  match fields.get? key with
  | some v => .ok v
  | none => .error (.missingKey (.text key))

namespace ToolCall

/-- Arguments may come as JSON text; a blank text has none. -/
def readArguments (v : Value) : Except Failure Value :=
  match v.orElse (.record []) with
  | .text s =>
    if s.codes.all Code.isBlank then .ok (.record [])
    else (Json.parse s).mapError .badJson
  | v => .ok v

def ofValue (data : Value) : Except Failure ToolCall := do
  let fields ← data.fieldsFor "get"
  let function := (fields.get? "function").getD data
  let inner ← function.fieldsFor "get"
  let arguments ← readArguments (inner.getD "arguments")
  let name ← inner.required "name"
  return ⟨name, arguments, fields.getD "id"⟩

def argumentText (v : Value) : Except Failure Text :=
  if Json.plain v then .ok (Json.render v) else .error (.badKind (.notJson "bytes"))

def toValue (c : ToolCall) : Except Failure Value := do
  let arguments ← argumentText c.arguments
  let function : Fields := [("name", c.name), ("arguments", .text arguments)]
  let base : Fields := [("type", .text "function"), ("function", .record function)]
  return .record (base ++ Fields.omitIf c.id.isNull "id" c.id)

end ToolCall

namespace Message

def byteOf (v : Value) : Except Failure UInt8 :=
  match v.int? with
  | none => .error (.badKind (.notInteger v.kind))
  | some n =>
    if 0 ≤ n ∧ n < 256 then .ok (UInt8.ofNat n.toNat) else .error (.badValue .byteRange)

/-- The bytes of an image: a text is read as base 64, a number gives so many zeros. -/
def imageBytes (v : Value) : Except Failure Bytes :=
  match v with
  | .text s => (Base64.decode s).mapError .badBase64
  | .bytes b => .ok b
  | .bool b => .ok (if b then [0] else [])
  | .int n =>
    if n < 0 then .error (.badValue .negativeCount) else .ok (List.replicate n.toNat 0)
  | .list xs => xs.mapM byteOf
  | .record fields => (fields.map fun p => Value.text p.1).mapM byteOf
  | .null | .real _ => .error (.badKind (.notConvertible v.kind))

def readRole (v : Value) : Except Failure Role :=
  match v with
  | .text s =>
    match Role.ofName? s with
    | some r => .ok r
    | none => .error (.badValue (.unknownRole v))
  | _ =>
    if v.hashable then .error (.badValue (.unknownRole v))
    else .error (.badKind (.unhashable v.kind))

def ofValue (data : Value) : Except Failure Message := do
  let fields ← data.fieldsFor "get"
  let role ← fields.required "role"
  let images ← (fields.getD "images").itemsOrNone
  let images ← images.mapM imageBytes
  let calls ← (fields.getD "tool_calls").itemsOrNone
  let toolCalls ← calls.mapM ToolCall.ofValue
  let role ← readRole role
  return {
    role
    content := (fields.getD "content").orElse (.text "")
    images := images.map .bytes
    toolCalls
    toolName := (fields.getD "tool_name").orElse (fields.getD "name") }

def imageText (v : Value) : Except Failure Value :=
  match v with
  | .bytes b => .ok (.text (Base64.encode b))
  | _ => .error (.badKind (.notBytes v.kind))

def toValue (m : Message) : Except Failure Value := do
  let images ← m.images.mapM imageText
  let calls ← m.toolCalls.mapM ToolCall.toValue
  let base : Fields := [("role", .text m.role.name), ("content", m.content)]
  return .record (base ++ Fields.omitIf images.isEmpty "images" (.list images) ++
    Fields.omitIf calls.isEmpty "tool_calls" (.list calls) ++
    Fields.omitIf m.toolName.isNull "tool_name" m.toolName)

def callOfArguments (data : Value) : Except Failure ToolCall := do
  let fields ← data.fieldsFor "keys"
  fields.checkArguments "ToolCall.__init__" ["name"] ["arguments", "id"]
  return ⟨fields.getD "name", (fields.get? "arguments").getD (.record []), fields.getD "id"⟩

def ofArguments (fields : Fields) : Except Failure Message := do
  let calls ← ((fields.get? "tool_calls").getD (.list [])).items
  let toolCalls ← calls.mapM callOfArguments
  fields.checkArguments "Message.__init__" ["role"]
    ["content", "images", "tool_calls", "tool_name"]
  let role ← readRole (fields.getD "role")
  let images ← ((fields.get? "images").getD (.list [])).items
  return {
    role, images, toolCalls
    content := (fields.get? "content").getD (.text "")
    toolName := fields.getD "tool_name" }

inductive Entry where
  | message (m : Message)
  | data (v : Value)

def Entry.read : Entry → Except Failure Message
  | .message m => .ok m
  | .data v => ofValue v

def equalIfReread (m : Message) : Except Failure Bool := do
  return (← ofValue (← m.toValue)).equal m

def readAll (entries : List Entry) : Except Failure (List Message) := entries.mapM Entry.read

end Message

end ChatWindow
