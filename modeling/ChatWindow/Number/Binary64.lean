/-!
# Binary floating point

A double is a sign, a mantissa and a power of two. Everything here is exact arithmetic on those;
a result that is no double is rounded to the nearest one, a half going to the even neighbour.
-/

namespace ChatWindow

def roundDiv (num den : Nat) : Nat :=
  let q := num / den
  let r := num % den
  if 2 * r < den then q
  else if den < 2 * r then q + 1
  else if q % 2 = 0 then q else q + 1

def pow2 (n : Nat) : Nat := Nat.pow 2 n

def pow10 (n : Nat) : Nat := Nat.pow 10 n

namespace Binary64

/-- The number `mantissa * 2 ^ exponent`, negated if so marked. -/
structure Parts where
  negative : Bool
  mantissa : Nat
  exponent : Int

inductive Reading where
  | finite (p : Parts)
  | infinite (negative : Bool)
  | notANumber

def ofFields (negative : Bool) (e m : Nat) : Reading :=
  if e = 2047 then
    if m = 0 then .infinite negative else .notANumber
  else if e = 0 then .finite ⟨negative, m, -1074⟩
  else .finite ⟨negative, m + pow2 52, (e : Int) - 1075⟩

def read (x : Float) : Reading :=
  let bits := x.toBits.toNat
  ofFields (bits / pow2 63 == 1) (bits / pow2 52 % pow2 11) (bits % pow2 52)

def Parts.fraction (p : Parts) : Nat × Nat :=
  (p.mantissa * pow2 p.exponent.toNat, pow2 (-p.exponent).toNat)

def signBit (negative : Bool) : Nat := if negative then pow2 63 else 0

def infinity (negative : Bool) : Float :=
  Float.ofBits (UInt64.ofNat (signBit negative + 2047 * pow2 52))

def notANumber : Float := Float.ofBits (UInt64.ofNat (2047 * pow2 52 + pow2 51))

/-- The bits of `m * 2 ^ e`, for a mantissa of at most 53 bits; none beyond the largest double. -/
def bits? (m : Nat) (e : Int) : Option Nat :=
  let (m, e) := if m = pow2 53 then (pow2 52, e + 1) else (m, e)
  if m < pow2 52 then some m
  else if e + 1075 ≥ 2047 then none
  else some ((e + 1075).toNat * pow2 52 + (m - pow2 52))

/-- The exponent of the last power of two that is not above the quotient. -/
def order (num den : Nat) : Int :=
  let guess : Int := (num.log2 : Int) - den.log2
  if den * pow2 guess.toNat ≤ num * pow2 (-guess).toNat then guess else guess - 1

def ofFraction? (negative : Bool) (num den : Nat) : Option Float :=
  if num = 0 then some (Float.ofBits (UInt64.ofNat (signBit negative)))
  else
    let e := max (order num den - 52) (-1074)
    let m := roundDiv (num * pow2 (-e).toNat) (den * pow2 e.toNat)
    (bits? m e).map fun b => Float.ofBits (UInt64.ofNat (signBit negative + b))

def ofInt? (n : Int) : Option Float := ofFraction? (n < 0) n.natAbs 1

/-- The double nearest to `digits * 10 ^ exponent`; beyond the largest it is infinite. -/
def ofDecimal (negative : Bool) (digits : Nat) (exponent : Int) : Float :=
  let size := exponent + (Nat.toDigits 10 digits).length
  if digits = 0 ∨ size < -400 then Float.ofBits (UInt64.ofNat (signBit negative))
  else if 400 < size then infinity negative
  else
    (ofFraction? negative (digits * pow10 exponent.toNat) (pow10 (-exponent).toNat)).getD
      (infinity negative)

def compareFraction (n : Int) (negative : Bool) (num den : Nat) : Ordering :=
  let right : Int := if negative then -(num : Int) else num
  compare (n * den) right

def compareInt (n : Int) (x : Float) : Option Ordering :=
  match read x with
  | .notANumber => none
  | .infinite negative => some (if negative then .gt else .lt)
  | .finite p => some (compareFraction n p.negative p.fraction.1 p.fraction.2)

def truncate? (x : Float) : Option Int :=
  match read x with
  | .finite p =>
    let n : Int := Int.ofNat (p.fraction.1 / p.fraction.2)
    some (if p.negative then -n else n)
  | _ => none

def toInt? (x : Float) : Option Int :=
  match read x with
  | .finite p =>
    if p.fraction.1 % p.fraction.2 = 0 then truncate? x else none
  | _ => none

def floorDiv? (x : Float) (q : Nat) : Option Int :=
  match read x with
  | .finite p =>
    let n : Int := p.fraction.1
    some (Int.fdiv (if p.negative then -n else n) (p.fraction.2 * q : Nat))
  | _ => none

end Binary64

end ChatWindow
