import ChatWindow.Number.Binary64
import ChatWindow.Value

/-!
# Equality of values

Values are equal by what they hold: a number in any of its kinds, with the truth values as one and
zero, and a record whatever the order of its fields. The double that stands for no number equals
itself.
-/

namespace ChatWindow.Value

def ofBool (b : Bool) : Int := if b then 1 else 0

def int? : Value → Option Int
  | .bool b => some (ofBool b)
  | .int n => some n
  | _ => none

def realEqual (x y : Float) : Bool := x == y || (x.isNaN && y.isNaN)

def intEqualReal (n : Int) (x : Float) : Bool := Binary64.compareInt n x == some .eq

mutual

def equal : Value → Value → Bool
  | .null, w => w.isNull
  | .bool a, w => intEqual (ofBool a) w
  | .int a, w => intEqual a w
  | .real x, .real y => realEqual x y
  | .real x, w => (w.int?.map fun n => intEqualReal n x).getD false
  | .text s, .text t => s == t
  | .bytes a, .bytes b => a == b
  | .list xs, .list ys => equalItems xs ys
  | .record fs, .record gs => fs.length == gs.length && equalFields fs gs
  | _, _ => false

def intEqual (n : Int) : Value → Bool
  | .bool b => n == ofBool b
  | .int m => n == m
  | .real x => intEqualReal n x
  | _ => false

def equalItems : List Value → List Value → Bool
  | [], [] => true
  | x :: xs, y :: ys => equal x y && equalItems xs ys
  | _, _ => false

def equalFields : List (Text × Value) → List (Text × Value) → Bool
  | [], _ => true
  | (k, v) :: fs, gs =>
    (match Fields.get? gs k with
      | some w => equal v w
      | none => false) && equalFields fs gs

end

def hashable : Value → Bool
  | .list _ => false
  | .record _ => false
  | _ => true

end ChatWindow.Value
