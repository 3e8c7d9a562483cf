import ChatWindow.Log.Entry
import ChatWindow.Schema

/-!
# Logging configuration

From which level on entries are written, and in which form.
-/

namespace ChatWindow.Log

inductive Level where
  | debug | info | warning | error | critical
  deriving DecidableEq

def Level.number : Level → Int
  | .debug => Log.debug
  | .info => Log.info
  | .warning => Log.warning
  | .error => Log.error
  | .critical => Log.critical

def Level.name (l : Level) : String := levelName l.number

def defaultFormat : String := "%(asctime)s %(levelname)s %(name)s: %(message)s"

structure Config where
  level : Level := .info
  structured : Bool := false
  logReports : Bool := true
  format : String := defaultFormat

namespace Config

def title : String := "LoggingConfig"

def assemble (level : Level) (structured logReports : Bool) (format : String) : Config :=
  { level, structured, logReports, format }

def readLevel : Schema.Reader Level :=
  Schema.choice (Level.debug.name, .debug) <|
    [Level.info, .warning, .error, .critical].map fun l => (l.name, l)

def ofFields (fields : Fields) : Checked Config :=
  let start : Checked _ := .ok assemble
  start
    |>.apply (Schema.field fields "level" .info readLevel)
    |>.apply (Schema.field fields "structured" false Schema.bool)
    |>.apply (Schema.field fields "log_reports" true Schema.bool)
    |>.apply (Schema.field fields "format" defaultFormat Schema.text)

def toFields (c : Config) : Fields :=
  [("level", .text c.level.name), ("structured", .bool c.structured),
    ("log_reports", .bool c.logReports), ("format", .text c.format)]

end Config

end ChatWindow.Log
