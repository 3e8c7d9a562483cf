import ChatWindow.Fit
import ChatWindow.Image.TagFormat
import ChatWindow.Message
import ChatWindow.Text.Search
import ChatWindow.Value.Arithmetic

/-!
# Images

What the images of a conversation cost, how many a message may have, and how each gets a tag.
-/

/-! ## Image limits

Some models take no more than so many images in one message. The first message with more than
that is named. -/

namespace ChatWindow.Image

def checkFrom (limit : Value) : Nat → List Message → Except Failure Unit
  | _, [] => .ok ()
  | i, m :: rest => do
    if ← limit.exceededBy m.images.length then
      throw (Failure.tooManyImages i m.images.length limit)
    checkFrom limit (i + 1) rest

def checkLimit (limit : Value) (messages : List Message) : Except Failure Unit :=
  if limit.isNull then .ok () else checkFrom limit 0 messages

def cost (multimodal : Bool) (each : Value) (messages : List Message) : Except Failure Value :=
  if multimodal then each.times (imageCount messages) else .ok (.int 0)

/-! ## Naming images

Every image gets an id, counted through all messages from zero, and a tag with that id. The tag
takes the place of the first placeholder left in the text of its message; without one it goes to
the front of the text, behind the tags that are there already. -/

structure Tagged where
  id : Nat
  data : Value

structure Draft where
  front : List Code
  text : List Code

def Draft.place (placeholder tag : List Code) (d : Draft) : Draft :=
  match Text.cut? placeholder d.text with
  | some (before, rest) => { d with text := before ++ tag ++ rest }
  | none => { d with front := d.front ++ tag }

variable (placeholder : List Code) (tagOf : Nat → Except Failure (List Code))

def placeAll : Nat → List Value → Draft → Except Failure Draft
  | _, [], d => .ok d
  | id, _ :: rest, d => do
    let tag ← tagOf id
    placeAll (id + 1) rest (d.place placeholder tag)

def hasKey (placeholder : List Code) (fields : Fields) : Bool :=
  fields.any fun p => p.1.codes == placeholder

def unfitContent (placeholder : List Code) (content : Value) : Failure :=
  match content with
  | .record fields =>
    if hasKey placeholder fields then .noAttribute "dict" "replace"
    else .badKind (.notJoined "dict")
  | .list xs =>
    if xs.any fun v => v.equal (.text (.ofCodes placeholder)) then
      .noAttribute "list" "replace"
    else .badKind (.notJoined "list")
  | .bytes _ => .badKind (.notBytes "str")
  | v => .badKind (.notContainer v.kind)

def tagMessage (id : Nat) (m : Message) : Except Failure Message :=
  match m.images, m.content with
  | [], _ => .ok m
  | images, .text s => do
    let d ← placeAll placeholder tagOf id images ⟨[], s.codes⟩
    return m.withContent (.text (.ofCodes (d.front ++ d.text)))
  | _, content => do
    -- A tag is asked for before the content turns out to be no text.
    let _ ← tagOf id
    throw (unfitContent placeholder content)

/-- A message without images is passed on as it is, all others are made anew. -/
def passedOn (m : Message) : Bool := m.images.isEmpty

theorem tagMessage_of_passedOn {m : Message} (h : passedOn m = true) (id : Nat) :
    tagMessage placeholder tagOf id m = .ok m := by
  rw [tagMessage, List.isEmpty_iff.mp h]

def tagFrom : Nat → List Message → Except Failure (List Message)
  | _, [] => .ok []
  | id, m :: rest => do
    let tagged ← tagMessage placeholder tagOf id m
    let others ← tagFrom (id + m.images.length) rest
    return tagged :: others

def numberFrom : Nat → List Value → List Tagged
  | _, [] => []
  | id, data :: rest => ⟨id, data⟩ :: numberFrom (id + 1) rest

def collect (messages : List Message) : List Tagged :=
  numberFrom 0 (messages.flatMap fun m => m.images)

/-- The images are named by whatever gives a tag to every id. -/
def assignBy (messages : List Message) : Except Failure (List Message × List Tagged) := do
  let tagged ← tagFrom placeholder tagOf 0 messages
  return (tagged, collect messages)

def tag (tagFormat : String) (id : Nat) : Except Failure (List Code) :=
  (TagFormat.format tagFormat.toList id).map fun cs => cs.map .char

def assign (placeholder : Text) (tagFormat : String) :
    List Message → Except Failure (List Message × List Tagged) :=
  assignBy placeholder.codes (tag tagFormat)

end ChatWindow.Image
