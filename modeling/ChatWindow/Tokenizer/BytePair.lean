import ChatWindow.Template
import ChatWindow.Value.Arithmetic

/-!
# Byte pair encoding

A text is cut into runs of small letters and single other characters. A piece that is in the
vocabulary is one token. Any other starts as single bytes; the adjacent pair whose union comes
first in the vocabulary is joined, the leftmost of equals, until no union is in it.
-/

namespace ChatWindow.BytePair

/-- Pieces of more than one byte, in the order of their numbers, which follow those of bytes. -/
abbrev Vocabulary := List Bytes

def utf8 (cs : List Char) : Bytes := cs.flatMap String.utf8EncodeChar

def indexFrom (b : Bytes) : Nat → Vocabulary → Option Nat
  | _, [] => none
  | i, w :: rest => if b = w then some i else indexFrom b (i + 1) rest

def rank? (v : Vocabulary) (b : Bytes) : Option Nat :=
  match b with
  | [x] => some x.toNat
  | _ => indexFrom b 256 v

def isLetter (c : Char) : Bool := 'a' ≤ c && c ≤ 'z'

def pushChar (c : Char) : List (List Char) → List (List Char)
  | (d :: piece) :: rest =>
    if isLetter c && isLetter d then (c :: d :: piece) :: rest else [c] :: (d :: piece) :: rest
  | rest => [c] :: rest

def pieces (cs : List Char) : List (List Char) := cs.foldr pushChar []

def bestRank? (v : Vocabulary) : List Bytes → Option Nat
  | a :: b :: rest =>
    match rank? v (a ++ b), bestRank? v (b :: rest) with
    | some n, some m => some (min n m)
    | some n, none => some n
    | none, best => best
  | _ => none

def joinFirst (v : Vocabulary) (n : Nat) : List Bytes → List Bytes
  | a :: b :: rest =>
    if rank? v (a ++ b) = some n then (a ++ b) :: rest else a :: joinFirst v n (b :: rest)
  | parts => parts

/-- Joins at most so many times; a piece has fewer joins than bytes. -/
def join (v : Vocabulary) : Nat → List Bytes → List Bytes
  | 0, parts => parts
  | fuel + 1, parts =>
    match bestRank? v parts with
    | none => parts
    | some n => join v fuel (joinFirst v n parts)

def encodePiece (v : Vocabulary) (piece : List Char) : List Nat :=
  let b := utf8 piece
  match rank? v b with
  | some n => [n]
  | none => (join v b.length (b.map fun x => [x])).filterMap (rank? v)

def encode (v : Vocabulary) (s : String) : List Nat :=
  (pieces s.toList).flatMap (encodePiece v)

def ofWords (words : List String) : Vocabulary := words.map fun w => utf8 w.toList

structure Encoding where
  name : String
  vocabulary : Vocabulary

def miniWords : List String :=
  ["th", "he", "the", "in", "ing", "er", "an", "and", "st", "us", "user", "assist", "ass", "is",
    "assistant", "ant", "ist", "im", "sy", "em", "system", "tem", "syst", "ar", "art"]

def mini : Encoding := ⟨"mini", ofWords miniWords⟩

def defaultName : String := "o200k_base"

def nameForModel (model : String) : String :=
  if model = "mini-model" ∨ model.startsWith "mini-family-" then mini.name else defaultName

def defaultThreshold : Int := 32768

def encoding? (name : String) : Option Encoding :=
  if name = mini.name ∨ name = defaultName then some { mini with name } else none

structure Adapter where
  name : String
  threshold : Value := .int defaultThreshold

namespace Adapter

def encoding (a : Adapter) : Except Failure Encoding :=
  match encoding? a.name with
  | some e => .ok e
  | none => .error (.badValue (.unknownEncoding a.name))

def tokenizer (a : Adapter) : Tokenizer where
  tokenize s := do
    let e ← a.encoding
    let _ ← a.threshold.exceeds s.length
    return (encode e.vocabulary s.repaired).map fun n => Value.int (Int.ofNat n)

end Adapter

end ChatWindow.BytePair
