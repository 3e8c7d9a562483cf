import ChatWindow.Failure
import ChatWindow.Number.Fixed
import ChatWindow.Value.Arithmetic

/-!
# Selection reports

What a selection kept, what it dropped, and how full the window is. A report is shown as a record
or as a text; both are made from its sheet, in which each entry is a value of any kind.
-/

namespace ChatWindow

structure Report where
  windowSize : Int
  givenCount : Nat
  finalCount : Nat
  givenTokens : Int
  finalTokens : Int
  intermediates : Nat := 0
  dropped : Nat := 0
  truncated : Bool := false
  markerInserted : Bool := false
  exceeded : Bool := false
  calls : Nat := 0
  requestId : Value := .null

structure Sheet where
  windowSize : Value
  givenCount : Value
  finalCount : Value
  givenTokens : Value
  finalTokens : Value
  intermediates : Value
  dropped : Value
  truncated : Value
  markerInserted : Value
  exceeded : Value
  calls : Value
  requestId : Value

def Report.sheet (r : Report) : Sheet where
  windowSize := .int r.windowSize
  givenCount := .int r.givenCount
  finalCount := .int r.finalCount
  givenTokens := .int r.givenTokens
  finalTokens := .int r.finalTokens
  intermediates := .int r.intermediates
  dropped := .int r.dropped
  truncated := .bool r.truncated
  markerInserted := .bool r.markerInserted
  exceeded := .bool r.exceeded
  calls := .int r.calls
  requestId := r.requestId

namespace Sheet

def requiredNames : List String :=
  ["window_size", "original_message_count", "final_message_count", "original_tokens",
    "final_tokens"]

def optionalNames : List String :=
  ["intermediate_count", "intermediates_dropped", "truncated", "marker_inserted",
    "budget_exceeded", "oracle_calls", "request_id"]

def callee : String := "SelectionReport.__init__"

def ofFields (fields : Fields) : Except Failure Sheet := do
  fields.checkArguments callee requiredNames optionalNames
  return {
    windowSize := fields.getD "window_size"
    givenCount := fields.getD "original_message_count"
    finalCount := fields.getD "final_message_count"
    givenTokens := fields.getD "original_tokens"
    finalTokens := fields.getD "final_tokens"
    intermediates := (fields.get? "intermediate_count").getD (.int 0)
    dropped := (fields.get? "intermediates_dropped").getD (.int 0)
    truncated := (fields.get? "truncated").getD (.bool false)
    markerInserted := (fields.get? "marker_inserted").getD (.bool false)
    exceeded := (fields.get? "budget_exceeded").getD (.bool false)
    calls := (fields.get? "oracle_calls").getD (.int 0)
    requestId := fields.getD "request_id" }

def messagesRemoved (s : Sheet) : Except Failure Value := s.givenCount.minus s.finalCount

def tokensRemoved (s : Sheet) : Except Failure Value := s.givenTokens.minus s.finalTokens

def utilization (s : Sheet) : Except Failure Float := do
  if ← s.windowSize.atMost 0 then return 0
  s.finalTokens.quotient s.windowSize

def toFields (s : Sheet) : Except Failure Fields := do
  let messagesRemoved ← s.messagesRemoved
  let tokensRemoved ← s.tokensRemoved
  let utilization ← s.utilization
  return [("window_size", s.windowSize), ("original_message_count", s.givenCount),
    ("final_message_count", s.finalCount), ("original_tokens", s.givenTokens),
    ("final_tokens", s.finalTokens), ("intermediate_count", s.intermediates),
    ("intermediates_dropped", s.dropped), ("truncated", s.truncated),
    ("marker_inserted", s.markerInserted), ("budget_exceeded", s.exceeded),
    ("oracle_calls", s.calls), ("request_id", s.requestId),
    ("messages_removed", messagesRemoved), ("tokens_removed", tokensRemoved),
    ("utilization", .real (Fixed.round 4 utilization))]

def percentage (x : Float) : String := Fixed.text 1 (x * 100) ++ "%"

def display (s : Sheet) : Except Failure String := do
  let utilization ← s.utilization
  let lines := [
    "Selection Report",
    "  Window:     " ++ s.windowSize.display,
    "  Messages:   " ++ s.givenCount.display ++ " -> " ++ s.finalCount.display,
    "  Tokens:     " ++ s.givenTokens.display ++ " -> " ++ s.finalTokens.display,
    "  Dropped:    " ++ s.dropped.display ++ " of " ++ s.intermediates.display,
    "  Utilization: " ++ percentage utilization]
  return "\n".intercalate (if s.exceeded.truthy then lines ++ ["  Budget exceeded"] else lines)

end Sheet

end ChatWindow
