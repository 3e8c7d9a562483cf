import ChatWindow.Text

/-!
# Kinds of characters

Blank characters, digits, and kinds that are given as tables of code points.
-/

/-! ## Blank characters

The characters that separate words: those of Unicode with the white space property, and the four
separators of ASCII. -/

namespace ChatWindow.Text

def isBlank (c : Char) : Bool :=
  let n := c.toNat
  (9 ≤ n && n ≤ 13) || (28 ≤ n && n ≤ 32) || n == 0x85 || n == 0xa0 || n == 0x1680 ||
    (0x2000 ≤ n && n ≤ 0x200a) || n == 0x2028 || n == 0x2029 || n == 0x202f || n == 0x205f ||
    n == 0x3000

def trimLeft (cs : List Char) : List Char := cs.dropWhile isBlank

def trimRight (cs : List Char) : List Char := (cs.reverse.dropWhile isBlank).reverse

def trim (cs : List Char) : List Char := trimRight (trimLeft cs)

section

variable {α : Type} (blank : α → Bool)

def pushWord (word : List α) (rest : List (List α)) : List (List α) :=
  if word.isEmpty then rest else word :: rest

def wordStep (c : α) (s : List α × List (List α)) : List α × List (List α) :=
  if blank c then ([], pushWord s.1 s.2) else (c :: s.1, s.2)

def words (cs : List α) : List (List α) :=
  let s := cs.foldr (wordStep blank) ([], [])
  pushWord s.1 s.2

end

end ChatWindow.Text

namespace ChatWindow.Code

def isBlank : Code → Bool
  | .char c => Text.isBlank c
  | .half _ => false

end ChatWindow.Code

/-! ## Digits

The numbers that digits in some base stand for. -/

namespace ChatWindow.Text

def digit? (base : Nat) (c : Char) : Option Nat :=
  let n :=
    if c.isDigit then c.toNat - 48
    else if 'a' ≤ c ∧ c ≤ 'f' then c.toNat - 87
    else if 'A' ≤ c ∧ c ≤ 'F' then c.toNat - 55
    else base
  if n < base then some n else none

def isDigit (base : Nat) (c : Char) : Bool := (digit? base c).isSome

def natOfDigits (base : Nat) (cs : List Char) : Nat :=
  cs.foldl (fun n c => match digit? base c with
    | some d => base * n + d
    | none => n) 0

def charOfNat? (n : Nat) : Option Char := if n.isValidChar then some (Char.ofNat n) else none

def hexChar? (count : Nat) (cs : List Char) : Option (Char × List Char) :=
  let digits := cs.take count
  if digits.length = count ∧ digits.all (isDigit 16) then
    (charOfNat? (natOfDigits 16 digits)).map fun c => (c, cs.drop count)
  else none

/-! ## Ranges of characters

Sets of code points as sorted, disjoint ranges with both ends included. -/

def inRanges (ranges : Array (Nat × Nat)) (n : Nat) : Bool :=
  ranges.any fun r => r.1 ≤ n && n ≤ r.2

end ChatWindow.Text
