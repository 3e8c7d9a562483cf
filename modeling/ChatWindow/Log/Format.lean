import ChatWindow.Json.Printer
import ChatWindow.Log.Entry

/-!
# Forms of log lines

An entry is written as a line of JSON or by a format with named directives. A format has to have
at least one of those.
-/

namespace ChatWindow.Log

inductive Form where
  | structured
  | plain (format : String)
  deriving DecidableEq

def messageOnly : String := "%(message)s"

def isWord (c : Char) : Bool := c.isAlphanum || c == '_' || 128 ≤ c.toNat

def dropSize (cs : List Char) : List Char :=
  match cs with
  | '*' :: rest => rest
  | cs => cs.dropWhile Char.isDigit

def dropPlaces (cs : List Char) : List Char :=
  match cs with
  | '.' :: '*' :: rest => rest
  | '.' :: c :: rest => if c.isDigit then rest.dropWhile Char.isDigit else '.' :: c :: rest
  | cs => cs

def directiveLetters : List Char := "diouxefgcrsa%".toList

def namedDirective (cs : List Char) : Bool :=
  match cs with
  | '(' :: rest =>
    let name := rest.takeWhile isWord
    match rest.dropWhile isWord with
    | ')' :: tail =>
      let tail := tail.dropWhile fun c => ['#', '0', '+', ' ', '-'].contains c
      !name.isEmpty &&
        match dropPlaces (dropSize tail) with
        | c :: _ => directiveLetters.contains c.toLower
        | [] => false
    | _ => false
  | _ => false

def hasDirective : List Char → Bool
  | [] => false
  | '%' :: rest => namedDirective rest || hasDirective rest
  | _ :: rest => hasDirective rest

def plainForm (format : String) : Except Failure Form :=
  if format = "" then .ok (.plain messageOnly)
  else if hasDirective format.toList then .ok (.plain format)
  else .error (.badMessage (.badStyle format))

namespace Form

def name : Form → String
  | .structured => "StructuredFormatter"
  | .plain _ => "Formatter"

def format : Form → String
  | .structured => messageOnly
  | .plain format => format

end Form

def attributes (e : Entry) (message : Text) : Fields :=
  let base : Fields := [("name", .text e.logger), ("msg", .text e.message), ("args", .list e.args),
    ("levelname", .text (levelName e.level)), ("levelno", .int e.level), ("exc_info", .null),
    ("exc_text", .null), ("stack_info", .null), ("threadName", .text "MainThread"),
    ("processName", .text "MainProcess"), ("message", .text message)]
  base ++ e.extras

def Entry.structured (time : Option Text) (e : Entry) : Except Failure Text := do
  let fields ← e.payloadAt time
  return Json.render (.record fields)

def Entry.line (e : Entry) : Form → Except Failure Text
  | .structured => e.structured none
  | .plain format => do
    let message ← e.text
    Percent.format format [.record (attributes e message)]

end ChatWindow.Log
