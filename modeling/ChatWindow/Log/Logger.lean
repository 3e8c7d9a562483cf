import ChatWindow.Log.Config
import ChatWindow.Log.Format

/-!
# Loggers

One logger with its children can be set up; setting it up again replaces only the handler that an
earlier set-up installed. Entries below the level are not written, nor are those that cannot be
formatted. Where there is no handler at all, the bare message of a warning or worse is written.
-/

namespace ChatWindow.Log

inductive Handler where
  | own (form : Form)
  /-- Installed by others; it writes nothing here. -/
  | foreign
  deriving DecidableEq

def Handler.isOwn : Handler → Bool
  | .own _ => true
  | .foreign => false

def rootName : String := "promptfit"

structure Logger where
  level : Option Level := none
  handlers : List Handler := []

namespace Logger

def own (l : Logger) : List Handler := l.handlers.filter Handler.isOwn

def formOf (c : Config) : Except Failure Form :=
  if c.structured then .ok .structured else plainForm c.format

def setup (l : Logger) (c : Config) : Except Failure Form × Logger :=
  let cleared : Logger :=
    { level := some c.level, handlers := l.handlers.filter fun h => !h.isOwn }
  match formOf c with
  | .ok form => (.ok form, { cleared with handlers := cleared.handlers ++ [.own form] })
  | .error f => (.error f, cleared)

def addForeign (l : Logger) : Logger := { l with handlers := l.handlers ++ [.foreign] }

def covers (name : Text) : Bool :=
  name == rootName || (Text.after? (Text.codes (rootName ++ ".")) name.codes).isSome

def threshold (l : Logger) (name : Text) : Int :=
  match covers name, l.level with
  | true, some level => level.number
  | _, _ => warning

def handlersOf (l : Logger) (name : Text) : List Handler :=
  if covers name then l.handlers else []

def reserved (name : Text) : Bool := ownNames.contains name && name != .plain "taskName"

def checkExtras (extras : Fields) : Except Failure Unit :=
  match extras.find? fun p => reserved p.1 with
  | some p => .error (.reservedField p.1.shown)
  | none => .ok ()

def writtenBy (e : Entry) : Handler → Text
  | .foreign => ""
  | .own form =>
    match e.line form with
    | .ok line => line ++ "\n"
    | .error _ => ""

def lastResort (e : Entry) : Text :=
  if e.level < warning then ""
  else
    match e.text with
    | .ok text => text ++ "\n"
    | .error _ => ""

def write (l : Logger) (e : Entry) : Except Failure Text := do
  if e.level < l.threshold e.logger then return ""
  checkExtras e.extras
  let handlers := l.handlersOf e.logger
  if handlers.isEmpty then return lastResort e
  return Text.join (handlers.map (writtenBy e))

end Logger

def exceptionText (f : Failure) : String :=
  let place := match f with
    | .fit .. => "promptfit.errors.exceptions."
    | f => if f.category = .cancelled then "asyncio.exceptions." else ""
  let name := place ++ f.label
  if f.message = "" then name else name ++ ": " ++ f.message

structure Attributed where
  entry : Entry
  attributes : Fields
  exception : Option Failure

namespace Attributed

def argsOf : Value → List Value
  | .list [] => []
  | v => if v.truthy then [v] else []

def message (a : Attributed) : Except Failure Text :=
  let template := match a.attributes.get? "msg" with
    | some v => v.toText
    | none => a.entry.message
  let args := match a.attributes.get? "args" with
    | some v => argsOf v
    | none => a.entry.args
  Percent.format template args

def payload (a : Attributed) : Except Failure Fields := do
  let message ← a.message
  let base : Fields := [
    ("level", (a.attributes.get? "levelname").getD (.text (levelName a.entry.level))),
    ("logger", (a.attributes.get? "name").getD (.text a.entry.logger)),
    ("message", .text message)]
  let fields := (a.attributes.filter fun p => shown p.1).foldl
    (fun fields p => fields.set p.1 p.2) base
  return match a.exception with
    | some f => fields.set "exception" (.text (exceptionText f))
    | none => fields

end Attributed

end ChatWindow.Log
