import ChatWindow.Number.Binary64
import ChatWindow.Text.Kinds
import ChatWindow.Value

/-!
# Plain YAML scalars

What a text without quotes stands for: nothing, a truth value, a number, a date, or itself.
Integers may have a base, low lines, and parts by sixties; a number with a point needs a sign in
its exponent. A date or time is kept as the bytes of its text, for no setting is one.
-/

namespace ChatWindow.Yaml

inductive Scalar where
  | value (v : Value)
  /-- The key of a mapping whose entries are taken over. -/
  | merge
  | default

def isNull (s : String) : Bool := ["", "~", "null", "Null", "NULL"].contains s

def isCased (word s : String) : Bool := s == word || s == word.toUpper || s == word.capitalize

def bool? (s : String) : Option Bool :=
  if ["yes", "true", "on"].any (isCased · s) then some true
  else if ["no", "false", "off"].any (isCased · s) then some false
  else none

def sign : List Char → Bool × Bool × List Char
  | '-' :: rest => (true, true, rest)
  | '+' :: rest => (true, false, rest)
  | cs => (false, false, cs)

def isRun (base : Nat) (cs : List Char) : Bool :=
  !cs.isEmpty && cs.all fun c => c == '_' || Text.isDigit base c

def run (cs : List Char) : List Char × List Char :=
  match cs with
  | [] => ([], [])
  | c :: _ =>
    if c.isDigit then
      (cs.takeWhile fun c => c.isDigit || c == '_', cs.dropWhile fun c => c.isDigit || c == '_')
    else ([], cs)

def sixtieths : List Char → List Nat × List Char
  | ':' :: c :: d :: rest =>
    if c.isDigit && d.isDigit then
      if c.toNat < '6'.toNat then
        let (parts, rest) := sixtieths rest
        (Text.natOfDigits 10 [c, d] :: parts, rest)
      else ([], ':' :: c :: d :: rest)
    else if c.isDigit then
      let (parts, rest) := sixtieths (d :: rest)
      (Text.natOfDigits 10 [c] :: parts, rest)
    else ([], ':' :: c :: d :: rest)
  | [':', c] => if c.isDigit then ([Text.natOfDigits 10 [c]], []) else ([], [':', c])
  | cs => ([], cs)

def bySixties (first : Nat) (parts : List Nat) : Nat := parts.foldl (fun n p => 60 * n + p) first

def signedInt (negative : Bool) (n : Nat) : Int := if negative then -(n : Int) else n

def exponent? : List Char → Option Int
  | [] => some 0
  | c :: d :: rest =>
    if (c = 'e' ∨ c = 'E') ∧ (d = '+' ∨ d = '-') ∧ !rest.isEmpty ∧ rest.all Char.isDigit then
      some (signedInt (d == '-') (Text.natOfDigits 10 rest))
    else none
  | _ => none

def placesOf (cs : List Char) : List Char := cs.filter Char.isDigit

def decimal? (negative : Bool) (whole cs : List Char) : Option Float := do
  let places := placesOf (cs.takeWhile fun c => c.isDigit || c == '_')
  let e ← exponent? (cs.dropWhile fun c => c.isDigit || c == '_')
  return Binary64.ofDecimal negative (Text.natOfDigits 10 (whole ++ places)) (e - places.length)

def real? (s : String) : Option Float :=
  let (signed, negative, body) := sign s.toList
  let word := String.ofList body
  if [".inf", ".Inf", ".INF"].contains word then some (Binary64.infinity negative)
  else if !signed && [".nan", ".NaN", ".NAN"].contains word then some Binary64.notANumber
  else
    match run body with
    | ([], '.' :: rest) =>
      if signed || !(rest.head?.map Char.isDigit).getD false then none
      else decimal? false [] rest
    | ([], _) => none
    | (whole, '.' :: rest) => decimal? negative whole rest
    | (whole, rest) =>
      match sixtieths rest with
      | (p :: parts, '.' :: rest) =>
        if rest.all fun c => c.isDigit || c == '_' then
          let places := placesOf rest
          let n := bySixties (Text.natOfDigits 10 whole) (p :: parts)
          let digits := n * pow10 places.length + Text.natOfDigits 10 places
          some (Binary64.ofDecimal negative digits (-places.length))
        else none
      | _ => none

def int? (s : String) : Option Int :=
  let (_, negative, body) := sign s.toList
  let ofRun := fun (base : Nat) (cs : List Char) =>
    if isRun base cs then some (signedInt negative (Text.natOfDigits base cs)) else none
  match body with
  | '0' :: 'b' :: rest => ofRun 2 rest
  | '0' :: 'x' :: rest => ofRun 16 rest
  | ['0'] => some 0
  | '0' :: rest => ofRun 8 rest
  | _ =>
    match run body with
    | ([], _) => none
    | (whole, rest) =>
      match sixtieths rest with
      | (parts, []) => some (signedInt negative (bySixties (Text.natOfDigits 10 whole) parts))
      | _ => none

def digitsOf (least most : Nat) (cs : List Char) : Option (List Char) :=
  let n := min most (cs.takeWhile Char.isDigit).length
  if least ≤ n then some (cs.drop n) else none

def passing (c : Char) : List Char → Option (List Char)
  | d :: rest => if c = d then some rest else none
  | [] => none

def isTime (cs : List Char) : Bool :=
  (do
    let rest ← passing ':' (← digitsOf 1 2 cs)
    let rest ← passing ':' (← digitsOf 2 2 rest)
    let rest ← digitsOf 2 2 rest
    let rest := match rest with
      | '.' :: rest => rest.dropWhile Char.isDigit
      | _ => rest
    let zone := rest.dropWhile fun c => c == ' ' || c == '\t'
    match zone with
    | [] => if rest.isEmpty then some () else none
    | ['Z'] => some ()
    | c :: rest =>
      if c = '+' ∨ c = '-' then
        match ← digitsOf 1 2 rest with
        | [] => some ()
        | rest => if (← digitsOf 2 2 (← passing ':' rest)).isEmpty then some () else none
      else none : Option Unit).isSome

def isMoment (s : String) : Bool :=
  let cs := s.toList
  let onDay := (do
    let rest ← passing '-' (← digitsOf 4 4 cs)
    let rest ← passing '-' (← digitsOf 2 2 rest)
    digitsOf 2 2 rest : Option (List Char)) == some []
  onDay || (do
    let rest ← passing '-' (← digitsOf 4 4 cs)
    let rest ← passing '-' (← digitsOf 1 2 rest)
    match ← digitsOf 1 2 rest with
    | c :: rest =>
      if c = 'T' ∨ c = 't' then some (isTime rest)
      else if c = ' ' ∨ c = '\t' then
        some (isTime (rest.dropWhile fun c => c == ' ' || c == '\t'))
      else none
    | [] => none : Option Bool).getD false

def moment (s : String) : Value := .bytes s.toUTF8.toList

def resolve (s : String) : Scalar :=
  if isNull s then .value .null
  else if s = "<<" then .merge
  else if s = "=" then .default
  else
    match bool? s, real? s, int? s with
    | some b, _, _ => .value (.bool b)
    | none, some x, _ => .value (.real x)
    | none, none, some n => .value (.int n)
    | none, none, none => .value (if isMoment s then moment s else .text s)

end ChatWindow.Yaml
