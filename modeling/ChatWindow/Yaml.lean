import ChatWindow.Yaml.Node
import ChatWindow.Yaml.Scalar

/-!
# YAML documents

The value of the one document of a text. A mapping may take over the entries of others, which its
own entries go before; of entries with one key the last counts. Keys that are no texts are left
out, but whether the outermost mapping has any is known.
-/

namespace ChatWindow.Yaml

def typed? (type s : String) : Option Value :=
  if type = standardTags ++ "str" then some (.text s)
  else if type = standardTags ++ "null" then some .null
  else if type = standardTags ++ "bool" then (bool? s.toLower).map .bool
  else if type = standardTags ++ "int" then (int? s).map .int
  else if type = standardTags ++ "float" then
    (real? s).map .real |>.or ((int? s).bind fun n => (Binary64.ofInt? n).map .real)
  else if type = standardTags ++ "timestamp" then if isMoment s then some (moment s) else none
  else none

def scalar? (tag : Option String) (plain : Bool) (s : String) : Option Scalar :=
  match tag, plain with
  | none, true | some "!", _ => some (resolve s)
  | none, false => some (.value (.text s))
  | some type, _ =>
    if type = standardTags ++ "merge" then some .merge
    else if type = standardTags ++ "value" then some .default
    else (typed? type s).map .value

def hasType (tag : Option String) (name : String) : Bool :=
  match tag with
  | none | some "!" => true
  | some type => type == standardTags ++ name

def key? : Node → Option Scalar
  | .text tag plain s => scalar? tag plain s
  | _ => none

abbrev Pairs := List (Value × Value)

def fields (pairs : Pairs) : Fields :=
  Fields.ofList (pairs.filterMap fun p => match p.1 with
    | .text k => some (k, p.2)
    | _ => none)

mutual

def value? : Node → Option Value
  | .text tag plain s =>
    match scalar? tag plain s with
    | some (.value v) => some v
    | _ => none
  | .list tag items => if hasType tag "seq" then (values? items).map .list else none
  | .map tag pairs =>
    if hasType tag "map" then (pairs? pairs).map fun p => .record (fields (p.1 ++ p.2)) else none

def values? : List Node → Option (List Value)
  | [] => some []
  | n :: rest => do return (← value? n) :: (← values? rest)

def pairs? : List (Node × Node) → Option (Pairs × Pairs)
  | [] => some ([], [])
  | (k, v) :: rest => do
    match ← key? k with
    | .merge =>
      let taken ← takenOver? v
      let (merged, own) ← pairs? rest
      return (taken ++ merged, own)
    | .default =>
      let v ← value? v
      let (merged, own) ← pairs? rest
      return (merged, (.text "=", v) :: own)
    | .value k =>
      let v ← value? v
      let (merged, own) ← pairs? rest
      return (merged, (k, v) :: own)

/-- The pairs of one mapping or of several, of which the first goes before the others. -/
def takenOver? : Node → Option Pairs
  | .map _ pairs => (pairs? pairs).map fun p => p.1 ++ p.2
  | .list _ items => takenFrom? items
  | .text .. => none

def takenFrom? : List Node → Option Pairs
  | [] => some []
  | .map _ pairs :: rest => do
    let (merged, own) ← pairs? pairs
    return (← takenFrom? rest) ++ merged ++ own
  | _ => none

end

structure Document where
  value : Value
  /-- Whether the outermost mapping has keys that are no texts. -/
  foreignKeys : Bool

def Pairs.foreign (pairs : Pairs) : Bool := pairs.any fun p => match p.1 with
  | .text _ => false
  | _ => true

def document? (n : Node) : Option Document := do
  let value ← value? n
  let foreignKeys := match n with
    | .map _ pairs => ((pairs? pairs).map fun p => Pairs.foreign (p.1 ++ p.2)).getD false
    | _ => false
  return { value, foreignKeys }

def read? (s : String) : Option Document := do
  match ← node? s.toList with
  | some n => document? n
  | none => return { value := .null, foreignKeys := false }

end ChatWindow.Yaml
