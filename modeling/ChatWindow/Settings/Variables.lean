import ChatWindow.Failure
import ChatWindow.Text.Search

/-!
# Settings in variables

A variable holds a whole section as JSON or one entry of it. The name of an entry follows that of
its section after two low lines, and further names go deeper. Entries go before the JSON, and the
case of names does not matter.
-/

namespace ChatWindow.Settings

/-- Where two records have a field in common its values are merged if both are records; else the
upper one counts. -/
def overlay (lower upper : Fields) : Fields := go lower upper
where
  go (lower : Fields) : List (Text × Value) → Fields
    | [] => lower
    | (key, .record inner) :: rest =>
      match lower.get? key with
      | some (.record below) => go (lower.set key (.record (go below inner))) rest
      | _ => go (lower.set key (.record inner)) rest
    | (key, v) :: rest => go (lower.set key v) rest

def variablePrefix : String := "promptfit_"

def separator : List Code := ['_', '_']

def lowered (vars : Fields) : Fields := Fields.ofList (vars.map fun p => (p.1.lower, p.2))

def namesFrom : Nat → List Code → List Text
  | 0, cs => [.ofCodes cs]
  | fuel + 1, cs =>
    match Text.cut? separator cs with
    | some (name, rest) => .ofCodes name :: namesFrom fuel rest
    | none => [.ofCodes cs]

def names (cs : List Code) : List Text := namesFrom cs.length cs

/-- Sets an entry below some others, unless one of those is there already and is no record. -/
def setBelow (last : Text) (v : Value) : List Text → Fields → Fields
  | [], fields => fields.set last v
  | name :: path, fields =>
    match fields.get? name with
    | none => fields.set name (.record (setBelow last v path []))
    | some (.record inner) => fields.set name (.record (setBelow last v path inner))
    | some _ => fields

def entries (title : String) (vars : Fields) : Fields :=
  let start := Text.codes (variablePrefix ++ title) ++ separator
  vars.foldl (fun fields p =>
    match Text.after? start p.1.codes with
    | some rest =>
      let path := names rest
      setBelow (path.getLastD "") p.2 path.dropLast fields
    | none => fields) []

def recased (known : List Text) (fields : Fields) : Fields :=
  Fields.ofList (fields.map fun p =>
    ((known.find? fun name => name.lower == p.1.lower).getD p.1, p.2))

structure Section where
  title : String
  fieldNames : List Text

def Section.value? (s : Section) (source : String) (vars : Fields) :
    Except Failure (Option Value) :=
  let own := entries s.title vars
  match vars.get? (variablePrefix ++ s.title) with
  | some (.text json) =>
    match Json.parse json with
    | .error _ => .error (.settings s.title source)
    | .ok .null => .ok none
    | .ok (.record fields) => .ok (some (.record (recased s.fieldNames (overlay fields own))))
    | .ok v => .ok (some v)
  | _ => .ok (if own.isEmpty then none else some (.record (recased s.fieldNames own)))

def ofVariables (source : String) (vars : Fields) : List Section → Except Failure Fields
  | [] => .ok []
  | s :: rest => do
    let v ← s.value? source vars
    let others ← ofVariables source vars rest
    return match v with
      | some v => (s.title, v) :: others
      | none => others

end ChatWindow.Settings
