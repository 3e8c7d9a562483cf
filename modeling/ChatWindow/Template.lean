import ChatWindow.Failure
import ChatWindow.Message

/-!
# Templates and tokenizers

A template turns messages, tool definitions and the thinking flag into the text of a prompt; a
tokenizer turns a text into tokens. Both may fail. Of the tokens only the number counts.
-/

namespace ChatWindow

structure Scene where
  messages : List Message
  tools : List Value
  think : Bool
  thinkSet : Bool

structure Template where
  render : Scene → Except Failure Text

structure Tokenizer where
  tokenize : Text → Except Failure (List Value)

/-! ## Measuring

The cost of a list of messages is the number of tokens of its rendered text, and for models that
see images a fixed number for each image. Tools and the thinking flag stay the same for all that
is measured together. -/

structure Oracle where
  template : Template
  tokenizer : Tokenizer
  tools : List Value := []
  think : Option Bool := none
  multimodal : Bool := false
  tokensPerImage : Int := 768

namespace Oracle

def scene (o : Oracle) (messages : List Message) : Scene where
  messages
  tools := o.tools
  think := o.think.getD false
  thinkSet := o.think.isSome

def renderFailure (messages : List Message) (f : Failure) : Failure :=
  f.wrap .render "Failed to render chat template" [("message_count", .int messages.length)]

def tokenizeFailure (text : Text) (f : Failure) : Failure :=
  f.wrap .tokenize "Failed to tokenize rendered prompt" [("text_length", .int text.length)]

def render (o : Oracle) (messages : List Message) : Except Failure Text :=
  (o.template.render (o.scene messages)).mapError (renderFailure messages)

def tokenize (o : Oracle) (text : Text) : Except Failure (List Value) :=
  (o.tokenizer.tokenize text).mapError (tokenizeFailure text)

def imageCost (o : Oracle) (messages : List Message) : Int :=
  if o.multimodal then o.tokensPerImage * imageCount messages else 0

def measure (o : Oracle) (messages : List Message) : Except Failure Int := do
  let text ← o.render messages
  let tokens ← o.tokenize text
  return tokens.length + o.imageCost messages

end Oracle

end ChatWindow
