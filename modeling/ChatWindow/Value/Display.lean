import ChatWindow.Number.Shortest
import ChatWindow.Text.Printable
import ChatWindow.Value

/-!
# What texts and values look like

Texts in quotes, numbers in several bases, and all other values as texts.
-/

/-! ## Quoted text

A text between quotes, as values inside lists and names in error texts are shown. Single quotes
are used unless the text has such a quote and no double one. -/

namespace ChatWindow.Text

def hexDigit (n : Nat) : Char := Char.ofNat (if n < 10 then 48 + n else 87 + n)

def hex : Nat → Nat → List Char
  | 0, _ => []
  | width + 1, n => hex width (n / 16) ++ [hexDigit (n % 16)]

def quoteMark (cs : List Char) : Char :=
  if cs.contains '\x27' && !cs.contains '"' then '"' else '\x27'

def quotedChar (mark c : Char) : List Char :=
  if c = mark ∨ c = '\\' then ['\\', c]
  else if c = '\n' then ['\\', 'n']
  else if c = '\r' then ['\\', 'r']
  else if c = '\t' then ['\\', 't']
  else if isPrintable c then [c]
  else if c.toNat < 256 then '\\' :: 'x' :: hex 2 c.toNat
  else if c.toNat < 65536 then '\\' :: 'u' :: hex 4 c.toNat
  else '\\' :: 'U' :: hex 8 c.toNat

def quotedCode (mark : Char) : Code → List Char
  | .char c => quotedChar mark c
  | .half n => '\\' :: 'u' :: hex 4 (0xd800 + n)

def quoted (t : Text) : String :=
  let mark := quoteMark (t.codes.filterMap Code.char?)
  String.ofList (mark :: t.codes.flatMap (quotedCode mark) ++ [mark])

def quotedByte (mark : Char) (b : UInt8) : List Char :=
  let c := Char.ofNat b.toNat
  if 127 ≤ b.toNat then '\\' :: 'x' :: hex 2 b.toNat else quotedChar mark c

def quotedBytes (bs : Bytes) : String :=
  let mark := quoteMark (bs.map fun b => Char.ofNat b.toNat)
  String.ofList ('b' :: mark :: bs.flatMap (quotedByte mark) ++ [mark])

def hexText (bs : Bytes) : String := String.ofList (bs.flatMap fun b => hex 2 b.toNat)

/-! ## Numbers in other bases

Digits beyond nine are small letters. -/

def binary (n : Nat) : List Char := Nat.toDigits 2 n

def octal (n : Nat) : List Char := Nat.toDigits 8 n

def hexadecimal (n : Nat) : List Char := Nat.toDigits 16 n

def upper (cs : List Char) : List Char := cs.map Char.toUpper

def asciiChar (c : Char) : List Char :=
  if c.toNat < 128 then [c]
  else if c.toNat < 256 then '\\' :: 'x' :: hex 2 c.toNat
  else if c.toNat < 65536 then '\\' :: 'u' :: hex 4 c.toNat
  else '\\' :: 'U' :: hex 8 c.toNat

def ascii (cs : List Char) : List Char := cs.flatMap asciiChar

end ChatWindow.Text

/-! ## Values as text

A text shows as itself where it stands alone and in quotes inside a list or record. -/

namespace ChatWindow.Value

def boolWord (b : Bool) : String := if b then "True" else "False"

def listed (items : List String) : String := ", ".intercalate items

mutual

def quoted : Value → String
  | .null => "None"
  | .bool b => boolWord b
  | .int n => toString n
  | .real x => Shortest.text x
  | .text s => Text.quoted s
  | .bytes b => Text.quotedBytes b
  | .list xs => "[" ++ listed (quotedItems xs) ++ "]"
  | .record fields => "\x7b" ++ listed (quotedFields fields) ++ "\x7d"

def quotedItems : List Value → List String
  | [] => []
  | x :: xs => quoted x :: quotedItems xs

def quotedFields : List (Text × Value) → List String
  | [] => []
  | (k, v) :: fields => (Text.quoted k ++ ": " ++ quoted v) :: quotedFields fields

end

def toText : Value → Text
  | .text s => s
  | v => v.quoted

def display (v : Value) : String := v.toText.shown

end ChatWindow.Value
