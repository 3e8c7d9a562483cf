import ChatWindow.Config
import ChatWindow.Run
import ChatWindow.Window.Quantity

/-!
# Windows

The window of a request holds the prompt and the room for the response, rounded up to a multiple
of the quantum. It is at least the floor and at most the largest multiple that the model can hold.
A window that the caller asks for can only make it smaller, and only where the configuration lets
it count. A prompt that reaches the limit of the model gets all of the model.
-/

namespace ChatWindow

structure WindowRequest (α : Type) where
  length : α
  /-- The room asked for the response; zero or less asks for what remains. -/
  budget : α
  limit : α
  caller : Option α

structure Window (α : Type) where
  tokens : α
  responseBudget : α
  exceeded : Bool

namespace Window

open Quantity

def unspecifiedBudget : Int := -1

section
variable {α : Type} [Quantity α]

def badLimit (limit : Value) : Failure :=
  .fit .configuration "model_max_ctx must be positive"
    [("config_key", .text "model_max_ctx"), ("expected", .text "> 0"), ("actual", limit)] none

def badLength (length : Value) : Failure :=
  .fit .configuration "message_length must not be negative"
    [("config_key", .text "message_length"), ("expected", .text ">= 0"), ("actual", length)] none

def checkLimit (limit : α) : Except Failure Unit :=
  if lessEq limit (ofInt 0) then .error (badLimit (toValue limit)) else .ok ()

def checkLength (length : α) : Except Failure Unit :=
  if less length (ofInt 0) then .error (badLength (toValue length)) else .ok ()

def room (c : Config) (r : WindowRequest α) : α :=
  if less (ofInt 0) r.budget then r.budget
  else larger (sub r.limit r.length) (ofInt c.floor)

def honoured (c : Config) (r : WindowRequest α) : Option α :=
  match r.caller with
  | none => none
  | some w => if less (ofInt 0) w && c.callerWindow == .upperBound then some w else none

def wanted (c : Config) (r : WindowRequest α) : α :=
  let tokens := Quantity.roundUp (add r.length (room c r)) c.quantum
  match honoured c r with
  | none => tokens
  | some w => smaller tokens (Quantity.roundUp w c.quantum)

/-- The largest multiple of the quantum that the model can hold, unless it is below the floor. -/
def capacity (c : Config) (limit : α) : α :=
  let aligned := Quantity.roundDown limit c.quantum
  if less aligned (ofInt c.floor) then limit else aligned

def exceeds (r : WindowRequest α) : Bool := lessEq r.limit r.length

def fitted (c : Config) (r : WindowRequest α) : Window α where
  tokens :=
    if exceeds r then r.limit
    else smaller (larger (wanted c r) (ofInt c.floor)) (capacity c r.limit)
  responseBudget := room c r
  exceeded := exceeds r

def size (c : Config) (r : WindowRequest α) : Except Failure (Window α) := do
  checkLimit r.limit
  checkLength r.length
  return fitted c r

end

def whole (w : Window Amount) : Except Failure Int :=
  match w.tokens.whole? with
  | some n => .ok n
  | none => .error (.badKind (.notWhole w.tokens.toValue.kind))

end Window

end ChatWindow

/-! ## Sizing the window of a request

The amounts of a request are values of any kind, which are told apart in the order in which they
are used. A caller's window that does not count and a prompt that reaches the limit of the model
are logged. -/

namespace ChatWindow.Window

def optionalAmount (v : Value) : Except Failure (Option Amount) :=
  if v.isNull then .ok none else (Amount.compared ">" v).map some

def read (length budget limit caller : Value) : Except Failure (WindowRequest Amount) := do
  let limit ← Amount.compared "<=" limit
  checkLimit limit
  let length ← Amount.compared "<" length
  checkLength length
  let budget ← Amount.compared ">" budget
  let caller ← optionalAmount caller
  return { length, budget, limit, caller }

def events (c : Config) (r : WindowRequest Amount) (requestId : Value) : List Event :=
  (match r.caller with
    | some w =>
      if (honoured c r).isSome then [] else [.callerWindowIgnored requestId w.toValue]
    | none => []) ++
  if exceeds r then [.limitReached requestId r.length.toValue r.limit.toValue] else []

def sizeValues (c : Config) (length budget limit caller requestId : Value) :
    Run (Window Amount) := do
  let r ← Run.lift (read length budget limit caller)
  (events c r requestId).forM Run.log
  return fitted c r

def callee : String := "compute_window_size"

def requiredNames : List String :=
  ["message_length", "requested_response_budget", "model_max_ctx"]

def sizeFields (c : Config) (fields : Fields) : Run (Window Amount) :=
  match requiredNames.filter fun name : String => (fields.get? name).isNone with
  | first :: others => throw (.badArguments (.missing callee "positional" first others))
  | [] =>
    sizeValues c (fields.getD "message_length") (fields.getD "requested_response_budget")
      (fields.getD "model_max_ctx") (fields.getD "requested_window") (fields.getD "request_id")

end ChatWindow.Window
