import ChatWindow.Message.Record
import ChatWindow.Selection
import ChatWindow.Value.Arithmetic

/-!
# Sessions

A conversation that grows and is cut down again, with one oracle for all of it. A step that fails
leaves the conversation as it was; what it has measured is counted all the same.
-/

namespace ChatWindow

structure Session where
  oracle : Oracle
  conversation : List Message := []
  calls : Nat := 0

namespace Session

def append (s : Session) (messages : List Message) : Session :=
  { s with conversation := s.conversation ++ messages }

/-- A position counted from the start, or from the end if it is negative. -/
def bound (n : Nat) (i : Int) : Nat := (if i < 0 then n + i else i).toNat

def take (s : Session) (start stop : Option Int) : Session :=
  let n := s.conversation.length
  let first := (start.map (bound n)).getD 0
  let last := (stop.map (bound n)).getD n
  { s with conversation := (s.conversation.take last).drop first }

def measure (s : Session) : Except Failure Int × Session :=
  (s.oracle.measure s.conversation, { s with calls := s.calls + 1 })

def render (s : Session) : Except Failure Text := s.oracle.render s.conversation

def select (s : Session) (window : Int) (requestId : Value) (known : Option Int)
    (keep : Bool) : Except Failure Selection × List Event × Session :=
  let (result, progress) :=
    (Selection.select s.oracle.measure s.conversation window requestId known).run {}
  let s := { s with calls := s.calls + progress.measured }
  match result with
  | .ok selection =>
    let s := if keep then { s with conversation := selection.messages } else s
    (.ok selection, progress.events, s)
  | .error f => (.error f, progress.events, s)

end Session

end ChatWindow
