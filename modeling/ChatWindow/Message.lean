import ChatWindow.Value.Equal

/-!
# Messages

A chat message has a role, a text, images, calls of tools and, where it is the answer of a tool,
the tool's name. A conversation is any list of messages. The skip marker is the system message
that stands for messages left out.
-/

namespace ChatWindow

inductive Role where
  | system | user | assistant | tool
  deriving DecidableEq

def Role.name : Role → String
  | .system => "system"
  | .user => "user"
  | .assistant => "assistant"
  | .tool => "tool"

def Role.ofName? (s : Text) : Option Role :=
  if s = "system" then some .system
  else if s = "user" then some .user
  else if s = "assistant" then some .assistant
  else if s = "tool" then some .tool
  else none

structure ToolCall where
  name : Value
  arguments : Value
  id : Value

structure Message where
  role : Role
  content : Value
  images : List Value
  toolCalls : List ToolCall
  toolName : Value

def ToolCall.equal (c d : ToolCall) : Bool :=
  c.name.equal d.name && c.arguments.equal d.arguments && c.id.equal d.id

namespace Message

def ofText (role : Role) (text : Text) : Message := ⟨role, .text text, [], [], .null⟩

def isSystem (m : Message) : Bool := m.role == .system

def skipMarkerText : String := "..."

def skipMarker : Message := .ofText .system skipMarkerText

/-- Images, tool calls and a tool name do not make a marker any less of one. -/
def isSkipMarker (m : Message) : Bool :=
  m.role == .system && m.content.equal (.text skipMarkerText)

def withContent (m : Message) (content : Value) : Message := { m with content }

def equalCalls : List ToolCall → List ToolCall → Bool
  | [], [] => true
  | c :: cs, d :: ds => c.equal d && equalCalls cs ds
  | _, _ => false

def equal (m n : Message) : Bool :=
  m.role == n.role && m.content.equal n.content && Value.equalItems m.images n.images &&
    equalCalls m.toolCalls n.toolCalls && m.toolName.equal n.toolName

/-- What has to have a place in a set for the message to have one; the arguments of a call do
not. -/
def keys (m : Message) : List Value :=
  m.content :: m.images ++ m.toolCalls.flatMap (fun c => [c.name, c.id]) ++ [m.toolName]

def unhashable? (m : Message) : Option Value := m.keys.find? fun v => !v.hashable

theorem isSystem_of_isSkipMarker {m : Message} (h : m.isSkipMarker = true) :
    m.isSystem = true := by
  simp only [isSkipMarker, Bool.and_eq_true] at h
  exact h.1

end Message

def imageCount (messages : List Message) : Nat :=
  messages.foldl (fun n m => n + m.images.length) 0

end ChatWindow
