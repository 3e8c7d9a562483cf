import ChatWindow.Schema
import ChatWindow.Value.Arithmetic

/-!
# Models

What fitting needs to know of a model: how many tokens it can hold, whether it sees images, and
how many of them it takes in one message. That last number may be set for the model; otherwise the
strictest limit registered for one of its families holds.
-/

namespace ChatWindow

structure Model where
  name : String := ""
  contextLength : Nat
  hasProjector : Bool := false
  families : List String := []
  maxImages : Option Nat := none
  contextLength_pos : 0 < contextLength := by decide

structure Registry where
  limits : List (String × Nat) := [("mllama", 1)]

namespace Registry

def limitOf? (r : Registry) (family : String) : Option Nat := r.limits.lookup family

def register (r : Registry) (family : String) (limit : Int) : Except Failure Registry :=
  if limit < 0 then .error (.badValue .negativeLimit)
  else .ok { limits := (family, limit.toNat) :: r.limits }

def registerValue (r : Registry) (family : String) (limit : Value) : Except Failure Registry := do
  if ← limit.lessThan 0 then throw (.badValue .negativeLimit)
  match limit.number? with
  | some (.int n) => r.register family n
  | some (.real x) => r.register family ((Binary64.truncate? x).getD 0)
  | none => return r

def limit? (r : Registry) (families : List String) : Option Nat :=
  (families.filterMap r.limitOf?).min?

end Registry

namespace Model

def title : String := "ModelInfo"

def assemble (name : String) : { n : Nat // 0 < n } → Bool → List String → Option Nat → Model
  | ⟨contextLength, contextLength_pos⟩, hasProjector, families, maxImages =>
    { name, contextLength, hasProjector, families, maxImages, contextLength_pos }

def ofFields (fields : Fields) : Checked Model :=
  let start : Checked _ := .ok assemble
  start
    |>.apply (Schema.field fields "name" "" Schema.text)
    |>.apply (Schema.required fields "context_length" Schema.positive)
    |>.apply (Schema.field fields "has_image_projector" false Schema.bool)
    |>.apply (Schema.listField fields "families" Schema.text)
    |>.apply
      (Schema.field fields "max_images_per_message" none (Schema.optional Schema.natural))

def toFields (m : Model) : Fields :=
  [("name", .text m.name), ("context_length", .int m.contextLength),
    ("has_image_projector", .bool m.hasProjector),
    ("families", .list (m.families.map fun name : String => .text name)),
    ("max_images_per_message", .ofInt? (m.maxImages.map Int.ofNat))]

def imageLimit (m : Model) (r : Registry) : Option Nat := m.maxImages.or (r.limit? m.families)

end Model

end ChatWindow
