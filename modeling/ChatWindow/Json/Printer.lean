import ChatWindow.Number.Shortest
import ChatWindow.Value.Display

/-!
# Writing JSON

One writer for all the forms that are in use. They differ in what stands between items, in which
characters are escaped, and in whether every item has a line of its own.
-/

namespace ChatWindow.Json

structure Style where
  comma : List Code
  colon : List Code
  ascii : Bool

def spaced : Style := ⟨[',', ' '], [':', ' '], true⟩

def compact : Style := ⟨[','], [':'], false⟩

def unit (n : Nat) : List Code := '\\' :: 'u' :: (Text.hex 4 n).map .char

def unitEscape (c : Char) : List Code :=
  let n := c.toNat
  if n < 0x10000 then unit n
  else unit (0xd800 + (n - 0x10000) / 0x400) ++ unit (0xdc00 + (n - 0x10000) % 0x400)

def escapeChar (ascii : Bool) (c : Char) : List Code :=
  if c = '"' then ['\\', '"']
  else if c = '\\' then ['\\', '\\']
  else if c = '\n' then ['\\', 'n']
  else if c = '\r' then ['\\', 'r']
  else if c = '\t' then ['\\', 't']
  else if c = '\x08' then ['\\', 'b']
  else if c = '\x0c' then ['\\', 'f']
  else if c.toNat < 32 then unitEscape c
  else if ascii && 126 < c.toNat then unitEscape c
  else [c]

def escape (ascii : Bool) : Code → List Code
  | .char c => escapeChar ascii c
  | .half n => if ascii then unit (0xd800 + n) else [.half n]

def writeText (ascii : Bool) (t : Text) : List Code :=
  .char '"' :: t.codes.flatMap (escape ascii) ++ [.char '"']

def writeReal (x : Float) : List Code :=
  match Binary64.read x with
  | .notANumber => ['N', 'a', 'N']
  | .infinite negative =>
    (if negative then [.char '-'] else []) ++ Text.codes "Infinity"
  | .finite p => (Shortest.chars x p).map .char

def writeNat (n : Nat) : List Code := (Nat.toDigits 10 n).map .char

def writeInt (n : Int) : List Code :=
  if n < 0 then .char '-' :: writeNat n.natAbs else writeNat n.natAbs

mutual

/-- Byte strings have no form in JSON; where they are let through they appear as quoted text. -/
def write (style : Style) : Value → List Code
  | .null => ['n', 'u', 'l', 'l']
  | .bool true => ['t', 'r', 'u', 'e']
  | .bool false => ['f', 'a', 'l', 's', 'e']
  | .int n => writeInt n
  | .real x => writeReal x
  | .text s => writeText style.ascii s
  | .bytes b => writeText style.ascii (Text.quotedBytes b)
  | .list [] => ['[', ']']
  | .list (x :: xs) => .char '[' :: write style x ++ writeItems style xs ++ [.char ']']
  | .record [] => ['\x7b', '\x7d']
  | .record ((k, v) :: fields) =>
    .char '\x7b' :: writeText style.ascii k ++ style.colon ++ write style v ++
      writeFields style fields ++ [.char '\x7d']

def writeItems (style : Style) : List Value → List Code
  | [] => []
  | x :: xs => style.comma ++ write style x ++ writeItems style xs

def writeFields (style : Style) : List (Text × Value) → List Code
  | [] => []
  | (k, v) :: fields =>
    style.comma ++ writeText style.ascii k ++ style.colon ++ write style v ++
      writeFields style fields

end

def newline (depth : Nat) : List Code := .char '\n' :: List.replicate (2 * depth) (.char ' ')

mutual

def writeIndented (depth : Nat) : Value → List Code
  | .list [] => ['[', ']']
  | .list (x :: xs) =>
    .char '[' :: newline (depth + 1) ++ writeIndented (depth + 1) x ++
      indentedItems (depth + 1) xs ++ newline depth ++ [.char ']']
  | .record [] => ['\x7b', '\x7d']
  | .record ((k, v) :: fields) =>
    .char '\x7b' :: newline (depth + 1) ++ writeText false k ++ [.char ':', .char ' '] ++
      writeIndented (depth + 1) v ++ indentedFields (depth + 1) fields ++ newline depth ++
      [.char '\x7d']
  | v => write compact v

def indentedItems (depth : Nat) : List Value → List Code
  | [] => []
  | x :: xs => .char ',' :: newline depth ++ writeIndented depth x ++ indentedItems depth xs

def indentedFields (depth : Nat) : List (Text × Value) → List Code
  | [] => []
  | (k, v) :: fields =>
    .char ',' :: newline depth ++ writeText false k ++ [.char ':', .char ' '] ++
      writeIndented depth v ++ indentedFields depth fields

end

mutual

def plain : Value → Bool
  | .bytes _ => false
  | .list xs => plainItems xs
  | .record fields => plainFields fields
  | _ => true

def plainItems : List Value → Bool
  | [] => true
  | x :: xs => plain x && plainItems xs

def plainFields : List (Text × Value) → Bool
  | [] => true
  | (_, v) :: fields => plain v && plainFields fields

end

def codesLE : List Code → List Code → Bool
  | [], _ => true
  | _ :: _, [] => false
  | c :: cs, d :: ds => decide (c.toNat < d.toNat) || (c.toNat == d.toNat && codesLE cs ds)

def keyLE (a b : Text × Value) : Bool := codesLE a.1.codes b.1.codes

mutual

def sorted : Value → Value
  | .list xs => .list (sortedItems xs)
  | .record fields => .record ((sortedFields fields).mergeSort keyLE)
  | v => v

def sortedItems : List Value → List Value
  | [] => []
  | x :: xs => sorted x :: sortedItems xs

def sortedFields : List (Text × Value) → List (Text × Value)
  | [] => []
  | (k, v) :: fields => (k, sorted v) :: sortedFields fields

end

def render (v : Value) : Text := .ofCodes (write spaced v)

def renderCompact (v : Value) : Text := .ofCodes (write compact v)

def renderIndented (v : Value) : Text := .ofCodes (writeIndented 0 v)

def markupSafe : Code → List Code
  | .char c => if c = '<' ∨ c = '>' ∨ c = '&' ∨ c = '\x27' then unitEscape c else [.char c]
  | .half n => [.half n]

/-- Sorted fields, and nothing in the text that could open or close a tag. -/
def embedded (v : Value) : List Code := (write spaced (sorted v)).flatMap markupSafe

end ChatWindow.Json
