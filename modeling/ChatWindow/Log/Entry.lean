import ChatWindow.Log.Percent

/-!
# Log entries

An entry has a level, the name of its logger, a message and its arguments. Extra fields stand
beside these when the entry is written as a record.
-/

namespace ChatWindow.Log

def debug : Int := 10
def info : Int := 20
def warning : Int := 30
def error : Int := 40
def critical : Int := 50

def levelName (level : Int) : String :=
  if level = 0 then "NOTSET"
  else if level = debug then "DEBUG"
  else if level = info then "INFO"
  else if level = warning then "WARNING"
  else if level = error then "ERROR"
  else if level = critical then "CRITICAL"
  else s!"Level {level}"

structure Entry where
  level : Int
  logger : Text
  message : Text
  args : List Value := []
  extras : Fields := []

def ownNames : List Text :=
  ["name", "msg", "args", "levelname", "levelno", "pathname", "filename", "module", "exc_info",
    "exc_text", "stack_info", "lineno", "funcName", "created", "msecs", "relativeCreated",
    "thread", "threadName", "processName", "process", "message", "asctime", "taskName"]

def shown (name : Text) : Bool := !ownNames.contains name && name.codes.head? != some (.char '_')

namespace Entry

def text (e : Entry) : Except Failure Text := Percent.format e.message e.args

def ownFields (e : Entry) (time : Option Text) (message : Text) : Fields :=
  let stamp : Fields := time.toList.map fun t => ("timestamp", .text t)
  let own : Fields := [("level", .text (levelName e.level)), ("logger", .text e.logger),
    ("message", .text message)]
  stamp ++ own

/-- An extra field takes the place of one that has its name. -/
def fields (e : Entry) (time : Option Text) (message : Text) : Fields :=
  (e.extras.filter fun p => shown p.1).foldl (fun fields p => fields.set p.1 p.2)
    (e.ownFields time message)

def payloadAt (time : Option Text) (e : Entry) : Except Failure Fields := do
  let message ← e.text
  return e.fields time message

def payload (e : Entry) : Except Failure Fields := e.payloadAt none

end Entry

end ChatWindow.Log
