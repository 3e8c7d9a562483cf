import ChatWindow.Value.Arithmetic

/-!
# Amounts of tokens

Amounts are whole numbers. A request may give one as a truth value or as a double as well, which
is then carried along; both kinds of amount have the operations that sizing needs.
-/

namespace ChatWindow

def roundUp (value quantum : Int) : Int := -(Int.fdiv (-value) quantum) * quantum

def roundDown (value quantum : Int) : Int := Int.fdiv value quantum * quantum

def roundUp? (value quantum : Int) : Except Failure Int :=
  if quantum = 0 then .error (.badNumber .divisionByZero) else .ok (roundUp value quantum)

def roundUpValue (value quantum : Value) : Except Failure Value := do
  match value.number? with
  | none => throw (.badKind (.badOperand "-" value.kind))
  | some v =>
    match v, (← Value.operands "//" value quantum).2 with
    | .int n, .int q => return .int (← roundUp? n q)
    | a, b =>
      let q ← b.toReal
      if q == 0 then throw (.badNumber .realDivisionByZero)
      return .real (-(Float.floor (-(← a.toReal) / q)) * q)

class Quantity (α : Type) where
  ofInt : Int → α
  toValue : α → Value
  add : α → α → α
  sub : α → α → α
  less : α → α → Bool
  lessEq : α → α → Bool
  roundUp : α → Nat → α
  roundDown : α → Nat → α

namespace Quantity

variable {α : Type} [Quantity α]

def larger (a b : α) : α := if less a b then b else a

def smaller (a b : α) : α := if less b a then b else a

end Quantity

instance : Quantity Int where
  ofInt n := n
  toValue n := .int n
  add a b := a + b
  sub a b := a - b
  less a b := decide (a < b)
  lessEq a b := decide (a ≤ b)
  roundUp a q := ChatWindow.roundUp a q
  roundDown a q := ChatWindow.roundDown a q

theorem Quantity.larger_int (a b : Int) : larger a b = max a b := by
  simp only [larger, less, decide_eq_true_eq]
  split <;> omega

theorem Quantity.smaller_int (a b : Int) : smaller a b = min a b := by
  simp only [smaller, less, decide_eq_true_eq]
  split <;> omega

inductive Amount where
  | bool (b : Bool)
  | int (n : Int)
  | real (x : Float)

namespace Amount

def toValue : Amount → Value
  | .bool b => .bool b
  | .int n => .int n
  | .real x => .real x

def ofValue? : Value → Option Amount
  | .bool b => some (.bool b)
  | .int n => some (.int n)
  | .real x => some (.real x)
  | _ => none

def compared (sign : String) (v : Value) : Except Failure Amount :=
  match ofValue? v with
  | some a => .ok a
  | none => .error (.badKind (.notOrdered sign v.kind "int"))

def whole? : Amount → Option Int
  | .bool b => some (Value.ofBool b)
  | .int n => some n
  | .real _ => none

def realOfInt (n : Int) : Float := (Binary64.ofInt? n).getD (Binary64.infinity (n < 0))

def toReal : Amount → Float
  | .bool b => if b then 1 else 0
  | .int n => realOfInt n
  | .real x => x

def combine (f : Int → Int → Int) (g : Float → Float → Float) (a b : Amount) : Amount :=
  match a.whole?, b.whole? with
  | some m, some n => .int (f m n)
  | _, _ => .real (g a.toReal b.toReal)

def order (a b : Amount) : Option Ordering :=
  match a.whole?, b.whole? with
  | some m, some n => some (compare m n)
  | some m, none => Binary64.compareInt m b.toReal
  | none, some n => (Binary64.compareInt n a.toReal).map Ordering.swap
  | none, none =>
    if a.toReal < b.toReal then some .lt
    else if b.toReal < a.toReal then some .gt
    else if a.toReal == b.toReal then some .eq else none

def floorDivReal (x : Float) (q : Nat) : Float :=
  match Binary64.floorDiv? x q with
  | some n => if n = 0 then x * 0 else realOfInt n
  | none => x

def roundWith (f : Int → Int → Int) (g : Float → Nat → Float) (a : Amount) (q : Nat) : Amount :=
  match a.whole? with
  | some n => .int (f n q)
  | none => .real (g a.toReal q * realOfInt q)

instance : Quantity Amount where
  ofInt n := .int n
  toValue := toValue
  add := combine (· + ·) (· + ·)
  sub := combine (· - ·) (· - ·)
  less a b := order a b == some .lt
  lessEq a b := order a b == some .lt || order a b == some .eq
  roundUp := roundWith roundUp fun x q => -(floorDivReal (-x) q)
  roundDown := roundWith roundDown floorDivReal

end Amount

end ChatWindow
