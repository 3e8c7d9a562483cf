import ChatWindow.Json.Printer
import ChatWindow.Template
import ChatWindow.Text.Search

/-!
# The chat markup template

Each message is a block between a start and an end sign, with its role on the first line. Tool
definitions come first, in a system block of their own; calls of tools follow the text of their
message. Tools, names and arguments are embedded as JSON that can close no tag. The last line
opens the block of the answer; if thinking is switched off, an empty thought follows it.
-/

namespace ChatWindow.Markup

def startSign : List Code := Text.codes "<|im_start|>"

def endSign : List Code := Text.codes "<|im_end|>\n"

def callStart : List Code := Text.codes "<tool_call>"

def callEnd : List Code := Text.codes "</tool_call>"

def emptyThought : List Code := Text.codes "<think>\n\n</think>\n\n"

def embed (v : Value) : Except Failure (List Code) :=
  if Json.plain v then .ok (Json.embedded v) else .error (.badKind (.notJson "bytes"))

def callBody (name arguments : List Code) : List Code :=
  Text.codes "\x7b\"name\": " ++ name ++ Text.codes ", \"arguments\": " ++ arguments ++
    [.char '\x7d']

def call (c : ToolCall) : Except Failure (List Code) := do
  let name ← embed c.name
  let arguments ← embed c.arguments
  return .char '\n' :: callStart ++ callBody name arguments ++ callEnd

def message (m : Message) : Except Failure (List Code) := do
  let calls ← m.toolCalls.mapM call
  return startSign ++ Text.codes m.role.name ++ .char '\n' :: m.content.toText.codes ++
    calls.flatten ++ endSign

def tools (definitions : List Value) : Except Failure (List Code) := do
  if definitions.isEmpty then return []
  let lines ← definitions.mapM embed
  return startSign ++ Text.codes "system\n# Tools\n" ++ (lines.map (· ++ [.char '\n'])).flatten ++
    endSign

def closing (s : Scene) : List Code :=
  startSign ++ Text.codes "assistant\n" ++
    if s.thinkSet && !s.think then emptyThought else []

def renderCodes (s : Scene) : Except Failure (List Code) := do
  let head ← tools s.tools
  let blocks ← s.messages.mapM message
  return head ++ blocks.flatten ++ closing s

def render (s : Scene) : Except Failure Text := Text.ofCodes <$> renderCodes s

end ChatWindow.Markup
