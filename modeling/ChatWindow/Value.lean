import ChatWindow.Text

/-!
# Values

The data that messages, tool definitions, settings and log fields are made of: the values of a
JSON text and byte strings. A record keeps its fields in the order in which they were first set.
-/

namespace ChatWindow

abbrev Bytes := List UInt8

inductive Value where
  | null
  | bool (b : Bool)
  | int (n : Int)
  | real (x : Float)
  | text (s : Text)
  | bytes (b : Bytes)
  | list (xs : List Value)
  | record (fields : List (Text × Value))
  deriving Inhabited

abbrev Fields := List (Text × Value)

namespace Fields

def get? : Fields → Text → Option Value
  | [], _ => none
  | (k, v) :: rest, key => if k = key then some v else get? rest key

def getD (fields : Fields) (key : Text) : Value := (fields.get? key).getD .null

/-- A field that is set again keeps its place. -/
def set : Fields → Text → Value → Fields
  | [], key, v => [(key, v)]
  | (k, w) :: rest, key, v => if k = key then (k, v) :: rest else (k, w) :: set rest key v

def ofList (pairs : List (Text × Value)) : Fields :=
  pairs.foldl (fun fields p => fields.set p.1 p.2) []

def erase (fields : Fields) (key : Text) : Fields := fields.filter fun p => p.1 != key

def omitIf (absent : Bool) (key : Text) (v : Value) : Fields :=
  if absent then [] else [(key, v)]

@[simp] theorem get?_nil (key : Text) : get? [] key = none := rfl

end Fields

namespace Value

def truthy : Value → Bool
  | .null => false
  | .bool b => b
  | .int n => n != 0
  | .real x => x != 0
  | .text s => s != ""
  | .bytes b => !b.isEmpty
  | .list xs => !xs.isEmpty
  | .record fields => !fields.isEmpty

def kind : Value → String
  | .null => "NoneType"
  | .bool _ => "bool"
  | .int _ => "int"
  | .real _ => "float"
  | .text _ => "str"
  | .bytes _ => "bytes"
  | .list _ => "list"
  | .record _ => "dict"

def isNull : Value → Bool
  | .null => true
  | _ => false

def orElse (v w : Value) : Value := if v.truthy then v else w

def ofInt? : Option Int → Value
  | some n => .int n
  | none => .null

end Value

end ChatWindow
