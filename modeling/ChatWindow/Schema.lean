import ChatWindow.Fault
import ChatWindow.Number.Binary64
import ChatWindow.Text.Search

/-!
# Reading fields

Fields are read leniently: a number may come as text, a truth value as a word or a number. All
fields are read even after one has failed, so that every problem is reported, in the order of the
fields.
-/

namespace ChatWindow

abbrev Checked (α : Type) := Except (List Problem) α

namespace Checked

def apply {α β : Type} : Checked (α → β) → Checked α → Checked β
  | .ok f, .ok a => .ok (f a)
  | .ok _, .error q => .error q
  | .error p, .ok _ => .error p
  | .error p, .error q => .error (p ++ q)

def under {α : Type} (name : String) (c : Checked α) : Checked α :=
  c.mapError fun problems => problems.map (Problem.under name)

end Checked

namespace Schema

abbrev Reader (α : Type) := Value → Except FieldFault α

def isSpace (c : Char) : Bool :=
  let n := c.toNat
  (9 ≤ n && n ≤ 13) || n == 32 || n == 0x85 || n == 0xa0 || n == 0x1680 ||
    (0x2000 ≤ n && n ≤ 0x200a) || n == 0x2028 || n == 0x2029 || n == 0x202f || n == 0x205f ||
    n == 0x3000

/-- Digits, a single low line allowed between two of them. -/
def digits? : Bool → Nat → List Char → Option Nat
  | afterDigit, n, [] => if afterDigit then some n else none
  | afterDigit, n, c :: rest =>
    if c.isDigit then digits? true (10 * n + (c.toNat - 48)) rest
    else if c = '_' ∧ afterDigit then digits? false n rest
    else none

def wholeNumber? (cs : List Char) : Option Nat :=
  let tail := cs.dropWhile (· != '.')
  if (tail.drop 1).all (· == '0') then digits? false 0 (cs.takeWhile (· != '.')) else none

def intOfText? (s : String) : Option Int :=
  let trimmed := ((s.toList.dropWhile isSpace).reverse.dropWhile isSpace).reverse
  match trimmed with
  | '+' :: cs => (wholeNumber? cs).map Int.ofNat
  | '-' :: cs => (wholeNumber? cs).map fun n => -Int.ofNat n
  | cs => (wholeNumber? cs).map Int.ofNat

def intOfReal (x : Float) : Except FieldFault Int :=
  match Binary64.read x with
  | .finite _ =>
    match Binary64.toInt? x with
    | none => .error .intFraction
    | some n => if n.natAbs < pow2 63 then .ok n else .error .intTooLarge
  | _ => .error .notFinite

def int : Reader Int
  | .bool b => .ok (if b then 1 else 0)
  | .int n => .ok n
  | .real x => intOfReal x
  | .text (.plain s) =>
    match intOfText? s with
    | some n => .ok n
    | none => .error .intText
  | .text (.broken _) => .error .textUnicode
  | _ => .error .intKind

def positive (v : Value) : Except FieldFault { n : Nat // 0 < n } :=
  match int v with
  | .error fault => .error fault
  | .ok n =>
    if h : 0 < n then .ok ⟨n.toNat, by omega⟩ else .error (.greaterThan 0)

def natural (v : Value) : Except FieldFault Nat :=
  match int v with
  | .error fault => .error fault
  | .ok n => if 0 ≤ n then .ok n.toNat else .error (.atLeast 0)

def optional {α : Type} (read : Reader α) : Reader (Option α)
  | .null => .ok none
  | v => (read v).map some

def boolOfInt (n : Int) : Except FieldFault Bool :=
  if n = 0 then .ok false else if n = 1 then .ok true else .error .boolText

def boolOfWord? (s : String) : Option Bool :=
  let word := String.ofList (s.toList.map Char.toLower)
  if ["1", "on", "t", "true", "y", "yes"].contains word then some true
  else if ["0", "off", "f", "false", "n", "no"].contains word then some false
  else none

def bool : Reader Bool
  | .bool b => .ok b
  | .int n => if n.natAbs < pow2 63 then boolOfInt n else .error .boolKind
  | .real x =>
    match intOfReal x with
    | .ok n => boolOfInt n
    | .error _ => .error .boolKind
  | .text (.plain s) =>
    match boolOfWord? s with
    | some b => .ok b
    | none => .error .boolText
  | .text (.broken _) => .error .textUnicode
  | _ => .error .boolKind

/-- Halves are replaced. -/
def text : Reader String
  | .text s => .ok s.shown
  | _ => .error .textKind

def nonEmpty : Reader { s : String // s ≠ "" }
  | .text (.plain s) => if h : s = "" then .error (.textTooShort 1) else .ok ⟨s, h⟩
  | .text (.broken _) => .error .textUnicode
  | _ => .error .textKind

def choice {α : Type} (first : String × α) (others : List (String × α)) : Reader α := fun v =>
  let fault := FieldFault.notAmong first.1 (others.map (·.1))
  match v with
  | .text s =>
    match (first :: others).find? fun p => s == .plain p.1 with
    | some p => .ok p.2
    | none => .error fault
  | _ => .error fault

def located {α : Type} (path : List PathStep) : Except FieldFault α → Checked α :=
  Except.mapError fun fault => [⟨path, fault⟩]

def itemsFrom {α : Type} (name : String) (read : Reader α) : Nat → List Value → Checked (List α)
  | _, [] => .ok []
  | i, v :: rest =>
    Checked.apply ((located [.field name, .item i] (read v)).map List.cons)
      (itemsFrom name read (i + 1) rest)

def field {α : Type} (fields : Fields) (name : String) (default : α) (read : Reader α) :
    Checked α :=
  match fields.get? name with
  | none => .ok default
  | some v => located [.field name] (read v)

def required {α : Type} (fields : Fields) (name : String) (read : Reader α) : Checked α :=
  match fields.get? name with
  | none => .error [⟨[.field name], .missing⟩]
  | some v => located [.field name] (read v)

def listField {α : Type} (fields : Fields) (name : String) (read : Reader α) :
    Checked (List α) :=
  match fields.get? name with
  | none => .ok []
  | some (.list xs) => itemsFrom name read 0 xs
  | some _ => .error [⟨[.field name], .listKind⟩]

end Schema

end ChatWindow
