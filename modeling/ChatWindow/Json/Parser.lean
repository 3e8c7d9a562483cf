import ChatWindow.Number.Binary64
import ChatWindow.Value

/-!
# Reading JSON

Besides the standard, `NaN` and the two infinities are read. A number without fraction and
exponent is an integer, and of fields with one name the last gives the value. A fault names the
place where it was noticed.
-/

namespace ChatWindow.Json

inductive Complaint where
  | value | propertyName | colon | comma | control | escape | unicodeEscape | unterminated
  | extraData | byteOrderMark
  deriving DecidableEq

def Complaint.text : Complaint → String
  | .value => "Expecting value"
  | .propertyName => "Expecting property name enclosed in double quotes"
  | .colon => "Expecting ':' delimiter"
  | .comma => "Expecting ',' delimiter"
  | .control => "Invalid control character at"
  | .escape => "Invalid \\escape"
  | .unicodeEscape => "Invalid \\uXXXX escape"
  | .unterminated => "Unterminated string starting at"
  | .extraData => "Extra data"
  | .byteOrderMark => "Unexpected UTF-8 BOM (decode using utf-8-sig)"

structure Stop where
  complaint : Complaint
  rest : List Code

abbrev Step (α : Type) := Except Stop (α × List Code)

def isSpace (c : Code) : Bool := c == ' ' || c == '\t' || c == '\n' || c == '\r'

def skip (cs : List Code) : List Code := cs.dropWhile isSpace

def hexValue? (c : Char) : Option Nat :=
  if '0' ≤ c ∧ c ≤ '9' then some (c.toNat - 48)
  else if 'a' ≤ c ∧ c ≤ 'f' then some (c.toNat - 87)
  else if 'A' ≤ c ∧ c ≤ 'F' then some (c.toNat - 55)
  else none

def unit? (a b c d : Code) : Option Nat := do
  let a ← hexValue? (← a.char?)
  let b ← hexValue? (← b.char?)
  let c ← hexValue? (← c.char?)
  let d ← hexValue? (← d.char?)
  return ((a * 16 + b) * 16 + c) * 16 + d

def lowUnit? : List Code → Except Stop (Option (Nat × List Code))
  | .char '\\' :: .char 'u' :: a :: b :: c :: d :: e :: rest =>
    match unit? a b c d with
    | none => .error ⟨.unicodeEscape, 'u' :: a :: b :: c :: d :: e :: rest⟩
    | some n => .ok (if (Code.ofNat n).isLow then some (n, e :: rest) else none)
  | _ => .ok none

/-- The four digits after a backslash and a `u`; something has to follow them. -/
def scanUnit (cs : List Code) : Step Code :=
  match cs with
  | a :: b :: c :: d :: e :: rest =>
    match unit? a b c d with
    | none => .error ⟨.unicodeEscape, 'u' :: cs⟩
    | some n =>
      if (Code.ofNat n).isHigh then
        match lowUnit? (e :: rest) with
        | .error stop => .error stop
        | .ok (some (low, rest)) => .ok (Code.joined n low, rest)
        | .ok none => .ok (.ofNat n, e :: rest)
      else .ok (.ofNat n, e :: rest)
  | _ => .error ⟨.unicodeEscape, 'u' :: cs⟩

def shortEscape? : Code → Option Char
  | .char '"' => some '"'
  | .char '\\' => some '\\'
  | .char '/' => some '/'
  | .char 'b' => some '\x08'
  | .char 'f' => some '\x0c'
  | .char 'n' => some '\n'
  | .char 'r' => some '\r'
  | .char 't' => some '\t'
  | _ => none

def scanChar (opening cs : List Code) : Step (Option Code) :=
  match cs with
  | [] => .error ⟨.unterminated, opening⟩
  | .char '"' :: rest => .ok (none, rest)
  | .char '\\' :: rest =>
    match rest with
    | [] => .error ⟨.unterminated, opening⟩
    | .char 'u' :: digits => (scanUnit digits).map fun r => (some r.1, r.2)
    | c :: tail =>
      match shortEscape? c with
      | some d => .ok (some d, tail)
      | none => .error ⟨.escape, cs⟩
  | c :: rest => if c.toNat < 32 then .error ⟨.control, cs⟩ else .ok (some c, rest)

/-- The text up to the closing quote; at most one character is read for each unit of fuel. -/
def scanText (opening : List Code) : Nat → List Code → List Code → Step Text
  | 0, _, _ => .error ⟨.unterminated, opening⟩
  | fuel + 1, read, cs =>
    match scanChar opening cs with
    | .error stop => .error stop
    | .ok (none, rest) => .ok (.ofCodes read.reverse, rest)
    | .ok (some c, rest) => scanText opening fuel (c :: read) rest

def text? (opening rest : List Code) : Step Text := scanText opening (rest.length + 1) [] rest

def natOf (digits : List Code) : Nat := digits.foldl (fun n c => 10 * n + (c.toNat - 48)) 0

def wholePart : List Code → List Code × List Code
  | .char '0' :: rest => (['0'], rest)
  | cs => (cs.takeWhile Code.isDigit, cs.dropWhile Code.isDigit)

def fraction : List Code → List Code × List Code
  | .char '.' :: rest =>
    if (rest.takeWhile Code.isDigit).isEmpty then ([], '.' :: rest)
    else (rest.takeWhile Code.isDigit, rest.dropWhile Code.isDigit)
  | cs => ([], cs)

def exponentSign : List Code → Bool × List Code
  | .char '-' :: rest => (true, rest)
  | .char '+' :: rest => (false, rest)
  | cs => (false, cs)

def exponent? : List Code → Option (Int × List Code)
  | c :: rest =>
    if c = .char 'e' ∨ c = .char 'E' then
      let (negative, cs) := exponentSign rest
      let digits := cs.takeWhile Code.isDigit
      if digits.isEmpty then none
      else
        let n : Int := natOf digits
        some (if negative then -n else n, cs.dropWhile Code.isDigit)
    else none
  | [] => none

def unsigned? (negative : Bool) (cs : List Code) : Option (Value × List Code) :=
  let (whole, rest) := wholePart cs
  if whole.isEmpty then none
  else
    let (places, rest) := fraction rest
    match exponent? rest with
    | some (e, rest) =>
      some (.real (Binary64.ofDecimal negative (natOf (whole ++ places)) (e - places.length)), rest)
    | none =>
      if places.isEmpty then
        let n : Int := natOf whole
        some (.int (if negative then -n else n), rest)
      else
        some (.real (Binary64.ofDecimal negative (natOf (whole ++ places)) (-places.length)), rest)

def number? : List Code → Option (Value × List Code)
  | .char '-' :: rest => unsigned? true rest
  | cs => unsigned? false cs

def word? : List Code → Option (Value × List Code)
  | .char 'n' :: .char 'u' :: .char 'l' :: .char 'l' :: rest => some (.null, rest)
  | .char 't' :: .char 'r' :: .char 'u' :: .char 'e' :: rest => some (.bool true, rest)
  | .char 'f' :: .char 'a' :: .char 'l' :: .char 's' :: .char 'e' :: rest =>
    some (.bool false, rest)
  | .char 'N' :: .char 'a' :: .char 'N' :: rest => some (.real Binary64.notANumber, rest)
  | .char 'I' :: .char 'n' :: .char 'f' :: .char 'i' :: .char 'n' :: .char 'i' :: .char 't' ::
      .char 'y' :: rest =>
    some (.real (Binary64.infinity false), rest)
  | .char '-' :: .char 'I' :: .char 'n' :: .char 'f' :: .char 'i' :: .char 'n' :: .char 'i' ::
      .char 't' :: .char 'y' :: rest =>
    some (.real (Binary64.infinity true), rest)
  | _ => none

def scalar (cs : List Code) : Step Value :=
  match word? cs with
  | some r => .ok r
  | none =>
    match number? cs with
    | some r => .ok r
    | none => .error ⟨.value, cs⟩

mutual

def parseValue : Nat → List Code → Step Value
  | 0, cs => .error ⟨.value, cs⟩
  | fuel + 1, cs =>
    match cs with
    | .char '"' :: rest => (text? cs rest).map fun r => (.text r.1, r.2)
    | .char '[' :: rest =>
      match skip rest with
      | .char ']' :: rest => .ok (.list [], rest)
      | rest => parseItems fuel [] rest
    | .char '\x7b' :: rest =>
      match skip rest with
      | .char '\x7d' :: rest => .ok (.record [], rest)
      | rest => parseFields fuel [] rest
    | _ => scalar cs

/-- The items of a list from one of them on, those before it in reverse. -/
def parseItems : Nat → List Value → List Code → Step Value
  | 0, _, cs => .error ⟨.value, cs⟩
  | fuel + 1, read, cs =>
    match parseValue fuel cs with
    | .error stop => .error stop
    | .ok (v, rest) =>
      match skip rest with
      | .char ']' :: rest => .ok (.list (v :: read).reverse, rest)
      | .char ',' :: rest => parseItems fuel (v :: read) (skip rest)
      | rest => .error ⟨.comma, rest⟩

def parseFields : Nat → Fields → List Code → Step Value
  | 0, _, cs => .error ⟨.value, cs⟩
  | fuel + 1, read, cs =>
    match cs with
    | .char '"' :: tail =>
      match text? cs tail with
      | .error stop => .error stop
      | .ok (key, rest) =>
        match skip rest with
        | .char ':' :: rest =>
          match parseValue fuel (skip rest) with
          | .error stop => .error stop
          | .ok (v, rest) =>
            match skip rest with
            | .char '\x7d' :: rest => .ok (.record (read.set key v), rest)
            | .char ',' :: rest => parseFields fuel (read.set key v) (skip rest)
            | rest => .error ⟨.comma, rest⟩
        | rest => .error ⟨.colon, rest⟩
    | _ => .error ⟨.propertyName, cs⟩

end

structure Fault where
  complaint : Complaint
  offset : Nat
  line : Nat
  column : Nat

def Fault.at (complaint : Complaint) (cs : List Code) (offset : Nat) : Fault :=
  let before := cs.take offset
  { complaint, offset
    line := before.count (.char '\n') + 1
    column := (before.reverse.takeWhile (· != .char '\n')).length + 1 }

def Fault.message (f : Fault) : String :=
  let p := f.complaint.text
  s!"{p}: line {f.line} column {f.column} (char {f.offset})"

def parseCodes (cs : List Code) : Except Fault Value :=
  if cs.head? = some (.char (Char.ofNat 0xfeff)) then .error (.at .byteOrderMark cs 0)
  else
    match parseValue (2 * cs.length + 2) (skip cs) with
    | .error stop => .error (.at stop.complaint cs (cs.length - stop.rest.length))
    | .ok (v, rest) =>
      match skip rest with
      | [] => .ok v
      | rest => .error (.at .extraData cs (cs.length - rest.length))

def parse (t : Text) : Except Fault Value := parseCodes t.codes

end ChatWindow.Json
