import ChatWindow.Config
import ChatWindow.Log.Config
import ChatWindow.Settings.EnvFile
import ChatWindow.Settings.Variables
import ChatWindow.Toml
import ChatWindow.Yaml

/-!
# Settings

All configuration in two sections. A section is put together from several sources: what the caller
gives, the environment, an environment file, and a file in each of two languages. A source counts
where none before it says anything.
-/

namespace ChatWindow

structure Settings where
  context : Config := {}
  logging : Log.Config := {}

structure Surroundings where
  files : List (String × String) := []
  environment : Fields := []

namespace Settings

def title : String := "PromptFitSettings"

def sections : List Section :=
  [{ title := "context", fieldNames := Config.standard.toFields.map (·.1) },
    { title := "logging", fieldNames := (Log.Config.toFields {}).map (·.1) }]

def read {α : Type} (fields : Fields) (name model : String) (default : α)
    (ofFields : Fields → Checked α) : Checked α :=
  match fields.get? name with
  | none => .ok default
  | some (.record inner) => (ofFields inner).under name
  | some _ => .error [⟨[.field name], .recordKind model⟩]

def ofFields (fields : Fields) : Checked Settings :=
  let start : Checked _ := .ok Settings.mk
  start
    |>.apply (read fields "context" Config.title .standard Config.ofFields)
    |>.apply (read fields "logging" Log.Config.title {} Log.Config.ofFields)

/-! ## Sources -/

def file? (s : Surroundings) (name : String) : Option String :=
  (s.files.find? (·.1 == name)).map (·.2)

def environmentName : String := "EnvSettingsSource"

def environmentFileName : String := "DotEnvSettingsSource"

def ofToml (text : String) : Except Failure Fields :=
  match Toml.read? text with
  | some fields => .ok fields
  | none => .error (.unreadable .toml)

def ofYaml (text : String) : Except Failure Yaml.Document :=
  match Yaml.read? text with
  | some d => .ok d
  | none => .error (.unreadable .yaml)

structure Source where
  fields : Fields := []
  foreignKeys : Bool := false

def parts (index : Nat) (v : Value) : Except Failure (Value × Value) :=
  let pair := fun (parts : List Value) =>
    match parts with
    | [a, b] => .ok (a, b)
    | _ => .error (.badValue (.pairLength index parts.length))
  match v with
  | .text s => pair (s.split.map .text)
  | .list xs => pair xs
  | .record fields => pair (fields.map fun p => .text p.1)
  | .bytes b => pair (b.map fun n => .int n.toNat)
  | _ => .error (.badKind (.pairKind index))

def checkHash : Value → Except Failure Unit
  | .list _ => .error (.badKind (.unhashable "list"))
  | .record _ => .error (.badKind (.unhashable "dict"))
  | _ => .ok ()

def ofItems : Nat → Source → List Value → Except Failure Source
  | _, source, [] => .ok source
  | index, source, v :: rest => do
    let (key, value) ← parts index v
    checkHash key
    let source := match key with
      | .text k => { source with fields := source.fields.set k value }
      | _ => { source with foreignKeys := true }
    ofItems (index + 1) source rest

/-- Whatever stands in a file in place of a mapping has to be a list of pairs. -/
def ofDocument (d : Yaml.Document) : Except Failure Source :=
  match d.value with
  | .record fields => .ok { fields, foreignKeys := d.foreignKeys }
  | .list xs => ofItems 0 {} xs
  | .text s => ofItems 0 {} (s.split.map .text)
  | v => if v.truthy then .error (Failure.notIterable v) else .ok {}

def gather (s : Surroundings) (given : Fields) : Except Failure Source := do
  let toml ← match file? s "promptfit.toml" with
    | some text => ofToml text
    | none => pure []
  let yaml ← match file? s "promptfit.yaml" with
    | some text => ofDocument (← ofYaml text)
    | none => pure {}
  let outer ← ofVariables environmentName (lowered s.environment) sections
  let fileVars := ((file? s ".env").map (EnvFile.read s.environment)).getD []
  let environmentFile ← ofVariables environmentFileName (lowered fileVars) sections
  return { yaml with
    fields := [toml, environmentFile, outer, given].foldl overlay yaml.fields }

def load (s : Surroundings) (given : Fields) : Except Failure Settings := do
  let source ← gather s given
  if source.foreignKeys then throw (.badKind .fieldNameKind)
  match ofFields source.fields with
  | .ok settings => return settings
  | .error problems => throw (.invalid title problems)

/-! ## Settings from a file -/

def normalPath (path : String) : String :=
  let steps := (path.splitOn "/").filter fun step => step != "" && step != "."
  let body := "/".intercalate steps
  if path.startsWith "/" then "/" ++ body else if body = "" then "." else body

/-- What a file name ends in, from its last dot on; a dot at either end does not count. -/
def suffix (path : String) : String :=
  let name := ((path.splitOn "/").getLastD "").toList
  let tail := (name.reverse.takeWhile (· != '.')).reverse
  if tail.isEmpty ∨ name.length ≤ tail.length + 1 then "" else "." ++ String.ofList tail

def configFault (message : String) (details : Fields) : Failure :=
  .fit .configuration message details none

def notFound (path : String) : Failure :=
  configFault s!"Config file not found: {path}" [("config_key", .text "path")]

def badSuffix (suffix : String) : Failure :=
  configFault s!"Unsupported config file type: {suffix}"
    [("config_key", .text "path"), ("expected", .text ".toml, .yaml or .yml"),
      ("actual", .text suffix)]

def notMapping (path : String) : Failure :=
  configFault s!"Config file must contain a mapping: {path}" []

def ofFile (path text : String) : Except Failure Fields := do
  if suffix path = ".toml" then ofToml text
  else if suffix path = ".yaml" ∨ suffix path = ".yml" then
    let d ← ofYaml text
    if d.foreignKeys then throw (.badKind .fieldNameKind)
    match d.value with
    | .record fields => return fields
    | v => if v.truthy then throw (notMapping path) else return []
  else throw (badSuffix (suffix path))

def fromFile (s : Surroundings) (path : String) : Except Failure Settings := do
  let path := normalPath path
  match file? s path with
  | some text => load s (← ofFile path text)
  | none => throw (notFound path)

end Settings

end ChatWindow
