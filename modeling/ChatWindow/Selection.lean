import ChatWindow.Template
import ChatWindow.Run
import ChatWindow.Selection.Choice

/-!
# Selection

The messages of a conversation that fit a window. System messages, the first message of the chat
and the latest one are always kept; a skip marker stands for the intermediates that are not. Each
candidate is measured at most once, and the whole conversation not at all if its cost is given.
-/

namespace ChatWindow

def Outcome.report (o : Outcome) (count calls : Nat) (window : Int) (requestId : Value) :
    Report where
  windowSize := window
  givenCount := count
  finalCount := o.choice.slots.length
  givenTokens := o.givenCost
  finalTokens := o.finalCost
  intermediates := o.intermediates.length
  dropped := o.dropped.length
  truncated := !o.dropped.isEmpty
  markerInserted := o.choice.markerInserted
  exceeded := window < o.finalCost
  calls
  requestId

structure Selection where
  messages : List Message
  /-- The position of each message in the conversation, none for a marker put in. -/
  sources : List (Option Nat)
  report : Report

namespace Selection

def standings (messages : List Message) : List Standing := messages.map Message.standing

def start (messages : List Message) (known : Option Int) : Ledger Candidate :=
  match known with
  | some cost => { known := [(identity messages.length, cost)] }
  | none => {}

def empty (window : Int) (requestId : Value) : Selection :=
  ⟨[], [], {
    windowSize := window, givenCount := 0, finalCount := 0, givenTokens := 0
    finalTokens := 0, requestId }⟩

def ofOutcome (messages : List Message) (o : Outcome) (calls : Nat) (window : Int)
    (requestId : Value) : Selection where
  messages := Candidate.messages messages o.choice.slots
  sources := o.choice.slots.map Slot.position?
  report := o.report messages.length calls window requestId

def event (window : Int) (requestId : Value) : Remark → Event
  | .checked cost => .candidateChecked requestId cost window
  | .skeletonTooLarge => .skeletonTooLarge requestId

def find (measure : List Message → Except Failure Int) (messages : List Message) (window : Int)
    (known : Option Int) : Except Failure Outcome × Ledger Candidate :=
  (outcome (standings messages) window).run (fun c => measure (c.messages messages))
    (start messages known)

def select (measure : List Message → Except Failure Int) (messages : List Message)
    (window : Int) (requestId : Value) (known : Option Int) : Run Selection := do
  if messages.isEmpty then return empty window requestId
  -- The count goes on from what was measured earlier, and the report is only of this selection.
  let before ← Run.measured
  let (result, ledger) := find measure messages window known
  Run.count ledger.measured.length
  (ledger.remarks.map (event window requestId)).forM Run.log
  let o ← Run.lift result
  let after ← Run.measured
  return ofOutcome messages o (after - before) window requestId

end Selection

end ChatWindow
