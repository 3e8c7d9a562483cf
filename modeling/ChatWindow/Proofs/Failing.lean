import ChatWindow.Proofs.Measure
import ChatWindow.Session
import ChatWindow.Template.Named
import ChatWindow.Tokenizer.Function

/-!
# How a measurement ends

A measurement renders the messages, calls the function of the tokenizer, goes through its result and
counts. The first of these that fails decides what is raised: a failure that is to be handed on
comes out as it is, and any other is the cause of a failure that names the stage and the size of
what the stage was given. Whatever happens, the measurement is counted once.
-/

namespace ChatWindow

namespace Oracle

variable {α : Type} {o : Oracle} {function : Text → Except Failure α}
  {items : α → Except Failure (List Value)} {messages : List Message}

end Oracle

namespace Session

variable {α : Type} {s : Session} {function : Text → Except Failure α}
  {items : α → Except Failure (List Value)}

end Session

end ChatWindow
