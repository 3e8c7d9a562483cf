import ChatWindow.Failure
import ChatWindow.Text.Kinds
import ChatWindow.Value.Equal

/-!
# Arithmetic on values

Whole numbers stay exact, and a quotient of two is rounded once. As soon as a double takes part,
all is computed with doubles. What is no number takes part in nothing.
-/

namespace ChatWindow

inductive Number where
  | int (n : Int)
  | real (x : Float)

def Number.toReal : Number → Except Failure Float
  | .int n =>
    match Binary64.ofInt? n with
    | some x => .ok x
    | none => .error (.badNumber .tooLargeForReal)
  | .real x => .ok x

namespace Value

def number? : Value → Option Number
  | .bool b => some (.int (ofBool b))
  | .int n => some (.int n)
  | .real x => some (.real x)
  | _ => none

def compareInt (sign : String) (v : Value) (n : Int) : Except Failure (Option Ordering) :=
  match v.number? with
  | some (.int m) => .ok (some (compare m n))
  | some (.real x) => .ok ((Binary64.compareInt n x).map Ordering.swap)
  | none => .error (.badKind (.notOrdered sign v.kind "int"))

def atMost (v : Value) (n : Int) : Except Failure Bool :=
  (v.compareInt "<=" n).map fun o => o == some .lt || o == some .eq

def lessThan (v : Value) (n : Int) : Except Failure Bool :=
  (v.compareInt "<" n).map (· == some .lt)

def exceededBy (v : Value) (n : Int) : Except Failure Bool :=
  match v.number? with
  | some (.int m) => .ok (m < n)
  | some (.real x) => .ok (Binary64.compareInt n x == some .gt)
  | none => .error (.badKind (.notOrdered ">" "int" v.kind))

def exceeds (v : Value) (n : Int) : Except Failure Bool :=
  match v.number? with
  | some (.int m) => .ok (n < m)
  | some (.real x) => .ok (Binary64.compareInt n x == some .lt)
  | none => .error (.badKind (.notOrdered "<" "int" v.kind))

def operands (sign : String) (v w : Value) : Except Failure (Number × Number) :=
  match v.number?, w.number? with
  | some a, some b => .ok (a, b)
  | _, _ => .error (.badKind (.badOperands sign v.kind w.kind))

def minus (v w : Value) : Except Failure Value := do
  match ← operands "-" v w with
  | (.int a, .int b) => return .int (a - b)
  | (a, b) => return .real ((← a.toReal) - (← b.toReal))

def quotient (v w : Value) : Except Failure Float := do
  match ← operands "/" v w with
  | (.int a, .int b) =>
    match Binary64.ofFraction? ((a < 0) != (b < 0)) a.natAbs b.natAbs with
    | some x => return x
    | none => throw (.badNumber .quotientTooLarge)
  | (a, b) => return (← a.toReal) / (← b.toReal)

def repeated {α : Type} (n : Nat) (xs : List α) : List α := (List.replicate n xs).flatten

def times (v : Value) (n : Nat) : Except Failure Value :=
  match v with
  | .bool b => .ok (.int (ofBool b * n))
  | .int m => .ok (.int (m * n))
  | .real x => do return .real (x * (← (Number.int n).toReal))
  | .text s => .ok (.text (.ofCodes (repeated n s.codes)))
  | .bytes b => .ok (.bytes (repeated n b))
  | .list xs => .ok (.list (repeated n xs))
  | .null | .record _ => .error (.badKind (.badOperands "*" v.kind "int"))

end Value

end ChatWindow

/-! ## Values as whole numbers

A double is cut toward zero, a text is read as digits, and of a window its tokens count. -/

namespace ChatWindow.Value

def digits? : Bool → Nat → List Char → Option Nat
  | afterDigit, n, [] => if afterDigit then some n else none
  | afterDigit, n, c :: rest =>
    if c.isDigit then digits? true (10 * n + (c.toNat - 48)) rest
    else if c = '_' ∧ afterDigit then digits? false n rest
    else none

def intOfChars? (cs : List Char) : Option Int :=
  match Text.trim cs with
  | '+' :: cs => (digits? false 0 cs).map Int.ofNat
  | '-' :: cs => (digits? false 0 cs).map fun n => -Int.ofNat n
  | cs => (digits? false 0 cs).map Int.ofNat

def intOfText? : Text → Option Int
  | .plain s => intOfChars? s.toList
  | .broken _ => none

def windowTokens (fields : Fields) : Except Failure Int := do
  fields.checkArguments "WindowSize.__init__" ["tokens", "response_budget"] ["budget_exceeded"]
  match (fields.getD "tokens").int? with
  | some n => return n
  | none => throw (.badKind (.notWhole (fields.getD "tokens").kind))

def toWhole (v : Value) : Except Failure Int :=
  match v with
  | .bool b => .ok (ofBool b)
  | .int n => .ok n
  | .real x =>
    match Binary64.read x with
    | .finite _ => .ok ((Binary64.truncate? x).getD 0)
    | .infinite _ => .error (.badNumber .infinite)
    | .notANumber => .error (.badNumber .notANumber)
  | .text s =>
    match intOfText? s with
    | some n => .ok n
    | none => .error (.badNumber (.badDigits (Text.quoted s)))
  | .record fields => windowTokens fields
  | .bytes b => .error (.badNumber (.badDigits (Text.quotedBytes b)))
  | .null | .list _ => .error (.badKind (.notNumber v.kind))

end ChatWindow.Value
