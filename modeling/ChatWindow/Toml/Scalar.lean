import ChatWindow.Number.Binary64
import ChatWindow.Toml.Text
import ChatWindow.Value

/-!
# TOML numbers, dates and truth values

A date or time is kept as the bytes of its text, for no setting is one.
-/

namespace ChatWindow.Toml

def digits (base : Nat) (cs : List Char) : List Char × List Char :=
  let rec go : Bool → List Char → List Char × List Char
    | _, [] => ([], [])
    | afterDigit, c :: rest =>
      if Text.isDigit base c then
        let (ds, rest) := go true rest
        (c :: ds, rest)
      else if c == '_' && afterDigit && (rest.head?.map (Text.isDigit base)).getD false then
        go false rest
      else ([], c :: rest)
  go false cs

def based? (base : Nat) (cs : List Char) : Option (Value × List Char) :=
  let (ds, rest) := digits base cs
  if ds.isEmpty then none else some (.int (Text.natOfDigits base ds), rest)

def wholePart : List Char → List Char × List Char
  | '0' :: rest => (['0'], rest)
  | cs => digits 10 cs

def fraction : List Char → List Char × List Char
  | '.' :: rest =>
    let (ds, tail) := digits 10 rest
    if ds.isEmpty then ([], '.' :: rest) else (ds, tail)
  | cs => ([], cs)

def exponent? : List Char → Option (Int × List Char)
  | [] => none
  | c :: rest =>
    if c = 'e' ∨ c = 'E' then
      let (negative, rest) : Bool × List Char := match rest with
        | '-' :: rest => (true, rest)
        | '+' :: rest => (false, rest)
        | rest => (false, rest)
      let (ds, rest) := digits 10 rest
      let n : Int := Text.natOfDigits 10 ds
      if ds.isEmpty then none else some (if negative then -n else n, rest)
    else none

def decimal? (negative : Bool) (cs : List Char) : Option (Value × List Char) :=
  let (whole, rest) := wholePart cs
  if whole.isEmpty then none
  else
    let (places, rest) := fraction rest
    let n := Text.natOfDigits 10 (whole ++ places)
    match exponent? rest with
    | some (e, rest) => some (.real (Binary64.ofDecimal negative n (e - places.length)), rest)
    | none =>
      if places.isEmpty then some (.int (if negative then -(n : Int) else n), rest)
      else some (.real (Binary64.ofDecimal negative n (-places.length)), rest)

def special? (negative : Bool) : List Char → Option (Value × List Char)
  | 'i' :: 'n' :: 'f' :: rest => some (.real (Binary64.infinity negative), rest)
  | 'n' :: 'a' :: 'n' :: rest => some (.real Binary64.notANumber, rest)
  | _ => none

def number? (cs : List Char) : Option (Value × List Char) :=
  let prefixed := match cs with
    | '0' :: 'x' :: rest => based? 16 rest
    | '0' :: 'o' :: rest => based? 8 rest
    | '0' :: 'b' :: rest => based? 2 rest
    | _ => none
  let (negative, body) : Bool × List Char := match cs with
    | '-' :: rest => (true, rest)
    | '+' :: rest => (false, rest)
    | _ => (false, cs)
  prefixed.or ((decimal? negative body).or (special? negative body))

def within? (count least most : Nat) (cs : List Char) : Option (Nat × List Char) :=
  let ds := cs.take count
  let n := Text.natOfDigits 10 ds
  if ds.length = count ∧ ds.all Char.isDigit ∧ least ≤ n ∧ n ≤ most then some (n, cs.drop count)
  else none

def mark? (c : Char) : List Char → Option (List Char)
  | d :: rest => if c = d then some rest else none
  | [] => none

def time? (cs : List Char) : Option (List Char) := do
  let (_, rest) ← within? 2 0 23 cs
  let (_, rest) ← within? 2 0 59 (← mark? ':' rest)
  let (_, rest) ← within? 2 0 59 (← mark? ':' rest)
  match rest with
  | '.' :: tail =>
    if (tail.takeWhile Char.isDigit).isEmpty then return rest
    else return tail.dropWhile Char.isDigit
  | _ => return rest

def offset (cs : List Char) : List Char :=
  let signed := fun rest => do
    let (_, rest) ← within? 2 0 23 rest
    let (_, rest) ← within? 2 0 59 (← mark? ':' rest)
    return rest
  match cs with
  | 'Z' :: rest => rest
  | 'z' :: rest => rest
  | '+' :: rest => (signed rest).getD cs
  | '-' :: rest => (signed rest).getD cs
  | _ => cs

def daysIn (year month : Nat) : Nat :=
  let leap : Bool := year % 4 == 0 && (year % 100 != 0 || year % 400 == 0)
  if month = 2 then (if leap then 29 else 28)
  else if month = 4 ∨ month = 6 ∨ month = 9 ∨ month = 11 then 30
  else 31

def date? (cs : List Char) : Option (Bool × List Char) := do
  let (year, rest) ← within? 4 0 9999 cs
  let (month, rest) ← within? 2 1 12 (← mark? '-' rest)
  let (day, rest) ← within? 2 1 31 (← mark? '-' rest)
  let exists? : Bool := year != 0 && day ≤ daysIn year month
  match rest with
  | c :: tail =>
    if c = 'T' ∨ c = 't' ∨ c = ' ' then
      match time? tail with
      | some rest => return (exists?, offset rest)
      | none => return (exists?, rest)
    else return (exists?, rest)
  | [] => return (exists?, rest)

def moment (cs rest : List Char) : Value × List Char :=
  let s := String.ofList (cs.take (cs.length - rest.length))
  (.bytes s.toUTF8.toList, rest)

def scalar? (cs : List Char) : Option (Value × List Char) :=
  match cs with
  | 't' :: 'r' :: 'u' :: 'e' :: rest => some (.bool true, rest)
  | 'f' :: 'a' :: 'l' :: 's' :: 'e' :: rest => some (.bool false, rest)
  | _ =>
    match date? cs with
    | some (true, rest) => some (moment cs rest)
    | some (false, _) => none
    | none =>
      match time? cs with
      | some rest => some (moment cs rest)
      | none => number? cs

end ChatWindow.Toml
