import ChatWindow.Log.Entry
import ChatWindow.Report

/-!
# Events and runs

What fitting a conversation has to say about its work, and what is left behind of it.
-/

/-! ## Events

What fitting a conversation has to say about its work, and the log entry of each. -/

namespace ChatWindow

inductive Event where
  | callerWindowIgnored (requestId requested : Value)
  | limitReached (requestId length limit : Value)
  | windowSized (requestId : Value) (model : String) (tokens : Value) (length : Int)
  | candidateChecked (requestId : Value) (tokens window : Int)
  | skeletonTooLarge (requestId : Value)
  | selected (report : Report)
  | partSkipped (name : String)
  | contentSkipped (name : String)

def reportLogger : String := "promptfit.selection"

def Sheet.entry (s : Sheet) (logger : String) : Except Failure Log.Entry := do
  let utilization ← s.utilization
  let extras ← s.toFields
  return {
    level := if s.exceeded.truthy then Log.warning else Log.info
    logger
    message := "Selection kept %d of %d messages (%d of %d tokens, %.1f%% of window)"
    args := [s.finalCount, s.givenCount, s.finalTokens, s.givenTokens,
      .real (utilization * 100)]
    extras }

namespace Event

def sizing : String := "promptfit.context.sizing"
def selection : String := "promptfit.context.selection"
def prompt : String := "promptfit.prompt"
def convert : String := "promptfit.conversation.convert"

def entry : Event → Except Failure Log.Entry
  | .callerWindowIgnored requestId requested =>
    .ok ⟨Log.debug, sizing, "Ignoring caller window size", [],
      [("request_id", requestId), ("requested_window", requested)]⟩
  | .limitReached requestId length limit =>
    .ok ⟨Log.warning, sizing, "Prompt reaches the model context limit", [],
      [("request_id", requestId), ("message_length", length), ("model_max_ctx", limit)]⟩
  | .windowSized requestId model tokens length =>
    .ok ⟨Log.debug, prompt, "Sized window for %s: %d tokens for a %d token prompt",
      [.text model, tokens, .int length], [("request_id", requestId)]⟩
  | .candidateChecked requestId tokens window =>
    .ok ⟨Log.debug, selection, "Context size check: %d tokens against a window of %d",
      [.int tokens, .int window], [("request_id", requestId)]⟩
  | .skeletonTooLarge requestId =>
    .ok ⟨Log.debug, selection, "Skeleton alone exceeds the window", [],
      [("request_id", requestId)]⟩
  | .selected report => report.sheet.entry reportLogger
  | .partSkipped name =>
    .ok ⟨Log.debug, convert, "Skipping unsupported request part: %s", [.text name], []⟩
  | .contentSkipped name =>
    .ok ⟨Log.debug, convert, "Skipping unsupported user content: %s", [.text name], []⟩

end Event

/-! ## Runs

A run may fail, and whether it fails or not it leaves behind what it has done: how often it has
measured, what it has logged and which reports it has handed out. -/

structure Progress where
  /-- How often a candidate has been rendered and tokenized. -/
  measured : Nat := 0
  events : List Event := []
  reports : List Report := []

abbrev Run (α : Type) := ExceptT Failure (StateM Progress) α

namespace Run

def lift {α : Type} (r : Except Failure α) : Run α := ExceptT.mk (pure r)

def log (e : Event) : Run Unit := do
  let _ ← lift e.entry
  modify fun p => { p with events := p.events ++ [e] }

def measured : Run Nat := do return (← get).measured

def count (n : Nat) : Run Unit := modify fun p => { p with measured := p.measured + n }

def deliver (r : Report) : Run Unit := modify fun p => { p with reports := p.reports ++ [r] }

end Run

end ChatWindow
