import ChatWindow.Message

/-!
# The layout of a conversation

For selection a message is a system message, a skip marker or one of the chat. System messages go
to the front and the first message of the chat follows them. A marker right after that message was
left by an earlier selection and stays; anywhere else it is a system message like any other. The
chat messages between the first and the latest are the intermediates.
-/

namespace ChatWindow

inductive Standing where
  | system | marker | chat
  deriving DecidableEq

def Message.standing (m : Message) : Standing :=
  if m.isSkipMarker then .marker else if m.isSystem then .system else .chat

structure Parts where
  system : List Nat := []
  chat : List Nat := []
  marker : Option Nat := none
  deriving DecidableEq

/-- The parts of what follows position `i`, after `seen` messages of the chat or its marker. -/
def partsFrom (i seen : Nat) : List Standing → Parts
  | [] => {}
  | .system :: rest =>
    let p := partsFrom (i + 1) seen rest
    { p with system := i :: p.system }
  | .chat :: rest =>
    let p := partsFrom (i + 1) (seen + 1) rest
    { p with chat := i :: p.chat }
  | .marker :: rest =>
    if seen = 1 then { partsFrom (i + 1) 2 rest with marker := some i }
    else
      let p := partsFrom (i + 1) seen rest
      { p with system := i :: p.system }

def parts (standings : List Standing) : Parts := partsFrom 0 0 standings

inductive Slot where
  | kept (position : Nat)
  | inserted
  deriving DecidableEq

abbrev Candidate := List Slot

def Slot.position? : Slot → Option Nat
  | .kept i => some i
  | .inserted => none

def Slot.message (messages : List Message) : Slot → Message
  | .kept i => messages.getD i Message.skipMarker
  | .inserted => Message.skipMarker

def Candidate.messages (conversation : List Message) (c : Candidate) : List Message :=
  c.map (Slot.message conversation)

def keeping (positions : List Nat) : Candidate := positions.map Slot.kept

structure Layout where
  system : List Nat
  first : Nat
  marker : Option Nat
  intermediates : List Nat
  latest : Option Nat
  deriving DecidableEq

def Parts.layout? (p : Parts) : Option Layout :=
  match p.chat with
  | [] => none
  | first :: others => some ⟨p.system, first, p.marker, others.dropLast, others.getLast?⟩

namespace Layout

def head (l : Layout) : Candidate := keeping (l.system ++ [l.first])

def tail (l : Layout) : Candidate := keeping l.latest.toList

def full (l : Layout) : Candidate :=
  l.head ++ keeping l.marker.toList ++ keeping l.intermediates ++ l.tail

def skip (l : Layout) : Slot :=
  match l.marker with
  | some i => .kept i
  | none => .inserted

def withSuffix (l : Layout) (suffix : List Nat) : Candidate :=
  l.head ++ [l.skip] ++ keeping suffix ++ l.tail

def skeleton (l : Layout) : Candidate := l.withSuffix []

end Layout

end ChatWindow
