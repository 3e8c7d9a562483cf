import ChatWindow.Number.Shortest

/-!
# Decimals of a given length

The exact value of a double, rounded to so many places or so many digits. A half goes to the
even neighbour, and a number that rounds to zero keeps its sign.
-/

namespace ChatWindow.Fixed

def pointed (n places : Nat) : String :=
  let digits := Shortest.padded n (places + 1)
  let whole := digits.take (digits.length - places)
  if places = 0 then String.ofList whole
  else String.ofList (whole ++ '.' :: digits.drop (digits.length - places))

def signed (negative : Bool) (body : String) : String := if negative then "-" ++ body else body

def special (x : Float) (body : Binary64.Parts → String) : String :=
  match Binary64.read x with
  | .notANumber => "nan"
  | .infinite negative => signed negative "inf"
  | .finite p => signed p.negative (body p)

def text (places : Nat) (x : Float) : String :=
  special x fun p => pointed (roundDiv (p.fraction.1 * pow10 places) p.fraction.2) places

def round (places : Nat) (x : Float) : Float :=
  match Binary64.read x with
  | .finite p =>
    let n := roundDiv (p.fraction.1 * pow10 places) p.fraction.2
    (Binary64.ofFraction? p.negative n (pow10 places)).getD x
  | _ => x

/-- The value rounded to `places + 1` digits: the digits as a number, and the power of ten of the
first. -/
def leading (places : Nat) (p : Binary64.Parts) : Nat × Int :=
  if p.mantissa = 0 then (0, 0)
  else
    let (num, den) := p.fraction
    let top := Shortest.magnitude num den - 1
    let shift := (places : Int) - top
    let n := roundDiv (num * pow10 shift.toNat) (den * pow10 (-shift).toNat)
    if n = pow10 (places + 1) then (pow10 places, top + 1) else (n, top)

def scientific (places : Nat) (x : Float) : String :=
  special x fun p =>
    let (n, e) := leading places p
    pointed n places ++ String.ofList (Shortest.exponentChars e)

def withoutTail (s : String) : String :=
  if s.contains '.' then
    let kept := (s.toList.reverse.dropWhile (· = '0'))
    String.ofList (if kept.head? = some '.' then kept.drop 1 else kept).reverse
  else s

def general (digits : Nat) (keepZeros : Bool) (x : Float) : String :=
  let digits := max digits 1
  special x fun p =>
    let (n, e) := leading (digits - 1) p
    if e < -4 ∨ (digits : Int) ≤ e then
      let body := pointed n (digits - 1)
      (if keepZeros then body else withoutTail body) ++
        String.ofList (Shortest.exponentChars e)
    else
      let places := ((digits : Int) - 1 - e).toNat
      let body := pointed (roundDiv (p.fraction.1 * pow10 places) p.fraction.2) places
      if keepZeros then body else withoutTail body

def groupedBy (size : Nat) (mark : Char) (digits : List Char) : List Char :=
  let rec go (n : Nat) : List Char → List Char
    | [] => []
    | c :: rest => if n = size then mark :: c :: go 1 rest else c :: go (n + 1) rest
  (go 0 digits.reverse).reverse

def grouped (n : Int) : String :=
  signed (n < 0) (String.ofList (groupedBy 3 ',' (Nat.toDigits 10 n.natAbs)))

end ChatWindow.Fixed
