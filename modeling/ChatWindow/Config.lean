import ChatWindow.Schema

/-!
# Fitting configuration

How windows are rounded, what an image costs, how images are named in a prompt, and whether a
window asked for by the caller counts. A configuration holds only values that have been checked.
-/

namespace ChatWindow

/-- What becomes of a window that the caller asks for. -/
inductive CallerWindow where
  | ignore
  | upperBound
  deriving DecidableEq

def CallerWindow.name : CallerWindow → String
  | .ignore => "ignore"
  | .upperBound => "upper_bound"

def idField : List Char := ['\x7b', 'i', 'd', '\x7d']

def defaultPlaceholder : String := "[img]"

def defaultTagFormat : String := "[img-\x7bid\x7d]"

structure Config where
  quantum : Nat := 1024
  floor : Nat := 1024
  tokensPerImage : Nat := 768
  placeholder : String := defaultPlaceholder
  tagFormat : String := defaultTagFormat
  callerWindow : CallerWindow := .ignore
  quantum_pos : 0 < quantum := by decide
  floor_pos : 0 < floor := by decide
  placeholder_ne : placeholder ≠ "" := by decide
  tagged : Text.contains idField tagFormat.toList = true := by decide

namespace Config

def standard : Config := {}

def title : String := "ContextConfig"

def untagged : Problem := ⟨[], .rule "image_tag_format must contain an '\x7bid\x7d' field"⟩

def checkTag (quantum floor : { n : Nat // 0 < n }) (tokensPerImage : Nat)
    (placeholder : { s : String // s ≠ "" }) (tagFormat : String) (callerWindow : CallerWindow) :
    Checked Config :=
  if tagged : Text.contains idField tagFormat.toList = true then
    .ok {
      quantum := quantum.1, floor := floor.1, tokensPerImage, placeholder := placeholder.1
      tagFormat, callerWindow, quantum_pos := quantum.2, floor_pos := floor.2
      placeholder_ne := placeholder.2, tagged }
  else .error [untagged]

def readCallerWindow : Schema.Reader CallerWindow :=
  Schema.choice ("ignore", .ignore) [("upper_bound", .upperBound)]

def ofFields (fields : Fields) : Checked Config :=
  let start : Checked _ := .ok checkTag
  let read := start
    |>.apply (Schema.field fields "quantum" ⟨1024, by decide⟩ Schema.positive)
    |>.apply (Schema.field fields "window_floor" ⟨1024, by decide⟩ Schema.positive)
    |>.apply (Schema.field fields "tokens_per_image" 768 Schema.natural)
    |>.apply
      (Schema.field fields "image_placeholder" ⟨defaultPlaceholder, by decide⟩ Schema.nonEmpty)
    |>.apply (Schema.field fields "image_tag_format" defaultTagFormat Schema.text)
    |>.apply (Schema.field fields "caller_window_policy" .ignore readCallerWindow)
  read.bind id

def toFields (c : Config) : Fields :=
  [("quantum", .int c.quantum), ("window_floor", .int c.floor),
    ("tokens_per_image", .int c.tokensPerImage), ("image_placeholder", .text c.placeholder),
    ("image_tag_format", .text c.tagFormat),
    ("caller_window_policy", .text c.callerWindow.name)]

end Config

end ChatWindow
