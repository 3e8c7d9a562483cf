import ChatWindow.Image
import ChatWindow.Message.Record
import ChatWindow.Model
import ChatWindow.Selection
import ChatWindow.Window

/-!
# Building prompts

A conversation becomes a prompt in five steps. It is refused if a message has too many images; it
is measured; its window is sized; the messages that fit are selected; their images are named and
they are rendered. Only then is the selection reported, once.
-/

namespace ChatWindow

structure Builder where
  model : Model
  registry : Registry := {}
  template : Template
  tokenizer : Tokenizer
  config : Config := {}
  logReports : Bool := true
  reporting : Bool := false

structure PromptRequest where
  messages : List Message
  tools : Value := .list []
  think : Option Bool := none
  numPredict : Value := .int Window.unspecifiedBudget
  numCtx : Value := .null
  requestId : Value := .null

structure ChatPrompt where
  prompt : Text
  images : List Image.Tagged
  messages : List Message
  window : Window Amount
  report : Report

def ChatPrompt.exceeded (p : ChatPrompt) : Bool := p.window.exceeded || p.report.exceeded

namespace Builder

def imageLimit (b : Builder) : Option Nat := b.model.imageLimit b.registry

def oracle (b : Builder) (tools : List Value) (think : Option Bool) : Oracle where
  template := b.template
  tokenizer := b.tokenizer
  tools
  think
  multimodal := b.model.hasProjector
  tokensPerImage := b.config.tokensPerImage

def modelName (b : Builder) : String := if b.model.name = "" then "model" else b.model.name

def measure (o : Oracle) (messages : List Message) : Run Int :=
  if messages.isEmpty then return 0
  else do
    Run.count 1
    Run.lift (o.measure messages)

def render (o : Oracle) (messages : List Message) : Except Failure Text :=
  if messages.isEmpty then .ok "" else o.render messages

def report (b : Builder) (r : Report) : Run Unit := do
  if b.logReports then Run.log (.selected r)
  if b.reporting then Run.deliver r

def build (b : Builder) (r : PromptRequest) : Run ChatPrompt := do
  Run.lift (Image.checkLimit (.ofInt? (b.imageLimit.map Int.ofNat)) r.messages)
  let tools ← Run.lift r.tools.items
  let o := b.oracle tools r.think
  let length ← measure o r.messages
  let window ← Window.sizeValues b.config (.int length) r.numPredict
    (.int b.model.contextLength) r.numCtx r.requestId
  Run.log (.windowSized r.requestId b.modelName window.tokens.toValue length)
  -- The amounts of a request may be doubles, but messages are selected for a whole number.
  let size ← Run.lift window.whole
  let selection ← Selection.select o.measure r.messages size r.requestId (some length)
  let (messages, images) ← Run.lift
    (Image.assign b.config.placeholder b.config.tagFormat selection.messages)
  let prompt ← Run.lift (render o messages)
  b.report selection.report
  return { prompt, images, messages, window, report := selection.report }

end Builder

end ChatWindow
