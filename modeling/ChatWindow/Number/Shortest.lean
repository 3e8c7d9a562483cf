import ChatWindow.Number.Binary64

/-!
# Shortest decimals

The text of a double has the fewest digits that read back as that double, and of those the
nearest. It is positional for numbers from one ten-thousandth up to ten to the sixteenth.
-/

namespace ChatWindow.Shortest

structure Decimal where
  digits : Nat
  exponent : Int

def Decimal.toFloat (negative : Bool) (d : Decimal) : Float :=
  Binary64.ofDecimal negative d.digits d.exponent

def pow5 (n : Nat) : Nat := Nat.pow 5 n

/-- As `10 ^ n` is `2 ^ n * 5 ^ n`, so many fives move the point behind the last place. -/
def exact (p : Binary64.Parts) : Decimal :=
  ⟨p.mantissa * pow2 p.exponent.toNat * pow5 (-p.exponent).toNat, min p.exponent 0⟩

/-- The neighbour of the value on the grid of multiples of `10 ^ k` that reads back, the nearer
one if both do, the even one if they are equally near. -/
def onGrid (x : Float) (p : Binary64.Parts) (k : Int) : Option Decimal :=
  let num := p.fraction.1 * pow10 (-k).toNat
  let den := p.fraction.2 * pow10 k.toNat
  let near := roundDiv num den
  let far := if near * den ≤ num then near + 1 else near - 1
  [⟨near, k⟩, ⟨far, k⟩].find? fun d => decide (d.toFloat p.negative = x)

def magnitude (num den : Nat) : Int :=
  let digits := (Nat.toDigits 10 (num / den)).length
  if den ≤ num then digits
  else
    let inverse := (Nat.toDigits 10 (den / num)).length
    let low : Int := 1 - (inverse : Int)
    if den ≤ num * pow10 inverse ∧ den > num * pow10 (inverse - 1) then low else low + 1

/-- On coarse grids first: each unit of fuel leaves one digit more to be tried. -/
def search (x : Float) (p : Binary64.Parts) (top : Int) : Nat → Decimal
  | 0 => exact p
  | n + 1 =>
    match onGrid x p (top - 17 + n) with
    | some d => d
    | none => search x p top n

def decimal (x : Float) (p : Binary64.Parts) : Decimal :=
  search x p (magnitude p.fraction.1 p.fraction.2) 17

def layout (d : Decimal) : List Char × Int :=
  let digits := Nat.toDigits 10 d.digits
  ((digits.reverse.dropWhile (· = '0')).reverse, digits.length + d.exponent)

def zeros (n : Nat) : List Char := List.replicate n '0'

def padded (n width : Nat) : List Char :=
  let digits := Nat.toDigits 10 n
  zeros (width - digits.length) ++ digits

def exponentChars (e : Int) : List Char :=
  'e' :: (if e < 0 then '-' else '+') :: padded e.natAbs 2

def scientific (digits : List Char) (point : Int) : List Char :=
  let places := digits.drop 1
  digits.take 1 ++ (if places.isEmpty then [] else '.' :: places) ++ exponentChars (point - 1)

def positional (digits : List Char) (point : Int) : List Char :=
  if point ≤ 0 then '0' :: '.' :: (zeros (-point).toNat ++ digits)
  else if digits.length ≤ point then
    digits ++ zeros (point - digits.length).toNat ++ ['.', '0']
  else digits.take point.toNat ++ '.' :: digits.drop point.toNat

def positiveChars (d : Decimal) : List Char :=
  let (digits, point) := layout d
  if point ≤ -4 ∨ 16 < point then scientific digits point else positional digits point

def chars (x : Float) (p : Binary64.Parts) : List Char :=
  (if p.negative then ['-'] else []) ++
    if p.mantissa = 0 then ['0', '.', '0'] else positiveChars (decimal x p)

def text (x : Float) : String :=
  match Binary64.read x with
  | .notANumber => "nan"
  | .infinite negative => if negative then "-inf" else "inf"
  | .finite p => String.ofList (chars x p)

end ChatWindow.Shortest
