import ChatWindow.Image.Layout

/-!
# Tag formats

Literal text with fields in braces; a brace written twice stands for itself. The only value is the
image's id, under the name `id`. A field may ask for a part of it, for its text, and for a layout,
which may have fields of its own.
-/

namespace ChatWindow.Image

structure Field where
  name : List Char
  conversion : Option Char := none
  layout : List Char := []
  nested : Bool := false

/-- A faulty piece ends the format, after everything in front of it. -/
inductive Piece where
  | char (c : Char)
  | field (f : Field)
  | faulty (fault : LayoutFault)

namespace TagFormat

def takeName : List Char → Except LayoutFault (List Char × Char × List Char)
  | [] => .error .unfinished
  | '\x7b' :: _ => .error .openingInName
  | '[' :: rest => (inBrackets rest).map fun r => ('[' :: r.1, r.2)
  | c :: rest =>
    if c = '\x7d' ∨ c = ':' ∨ c = '!' then .ok ([], c, rest)
    else (takeName rest).map fun r => (c :: r.1, r.2)
where
  inBrackets : List Char → Except LayoutFault (List Char × Char × List Char)
    | [] => .error .unfinished
    | ']' :: rest => (takeName rest).map fun r => (']' :: r.1, r.2)
    | c :: rest => (inBrackets rest).map fun r => (c :: r.1, r.2)

def takeLayout : Nat → List Char → Except LayoutFault (List Char × List Char)
  | _, [] => .error .unmatched
  | depth, '\x7b' :: rest =>
    (takeLayout (depth + 1) rest).map fun r => ('\x7b' :: r.1, r.2)
  | depth, '\x7d' :: rest =>
    if depth = 0 then .ok ([], rest)
    else (takeLayout (depth - 1) rest).map fun r => ('\x7d' :: r.1, r.2)
  | depth, c :: rest => (takeLayout depth rest).map fun r => (c :: r.1, r.2)

def withLayout (name : List Char) (conversion : Option Char) (cs : List Char) :
    Except LayoutFault (Field × List Char) := do
  let (layout, rest) ← takeLayout 0 cs
  return ({ name, conversion, layout, nested := layout.contains '\x7b' }, rest)

def takeField (cs : List Char) : Except LayoutFault (Field × List Char) := do
  let (name, ending, rest) ← takeName cs
  if ending = '\x7d' then return ({ name }, rest)
  else if ending = ':' then withLayout name none rest
  else
    match rest with
    | [] => throw .conversionEnd
    | [_] => throw .unmatched
    | c :: '\x7d' :: rest => return ({ name, conversion := some c }, rest)
    | c :: ':' :: rest => withLayout name (some c) rest
    | _ => throw .conversionColon

/-- A piece takes at least one character, so the length of the text is fuel enough. -/
def pieces : Nat → List Char → List Piece
  | 0, _ => []
  | _ + 1, [] => []
  | fuel + 1, '\x7b' :: rest =>
    match rest with
    | [] => [.faulty .loneOpening]
    | '\x7b' :: rest => .char '\x7b' :: pieces fuel rest
    | rest =>
      match takeField rest with
      | .ok (f, rest) => .field f :: pieces fuel rest
      | .error fault => [.faulty fault]
  | fuel + 1, '\x7d' :: rest =>
    match rest with
    | '\x7d' :: rest => .char '\x7d' :: pieces fuel rest
    | _ => [.faulty .loneClosing]
  | fuel + 1, c :: rest => .char c :: pieces fuel rest

def parse (cs : List Char) : List Piece := pieces cs.length cs

def isNameEnd (c : Char) : Bool := c == '.' || c == '['

def partNamed (name : List Char) (n : Nat) : Except Failure Nat :=
  if name = [] then .error (.badLayout .emptyAttribute)
  else
    match String.ofList name with
    | "real" => .ok n
    | "numerator" => .ok n
    | "imag" => .ok 0
    | "denominator" => .ok 1
    | other => .error (.noAttribute "int" other)

def parts : Nat → List Char → Nat → Except Failure Nat
  | 0, _, n => .ok n
  | _ + 1, [], n => .ok n
  | fuel + 1, '.' :: rest, n => do
    let m ← partNamed (rest.takeWhile fun c => !isNameEnd c) n
    parts fuel (rest.dropWhile fun c => !isNameEnd c) m
  | _ + 1, '[' :: rest, _ =>
    if !rest.contains ']' then .error (.badLayout .unclosedBracket)
    else if rest.head? = some ']' then .error (.badLayout .emptyAttribute)
    else .error (.badKind (.notSubscriptable "int"))
  | _ + 1, _, _ => .error (.badLayout .afterBracket)

def lookUp (name : List Char) (id : Nat) : Except Failure Nat :=
  let first := name.takeWhile fun c => !isNameEnd c
  if first.all Char.isDigit then
    if Spec.natOf first < pow2 63 then .error (.noPosition (Spec.natOf first))
    else .error (.badLayout .tooManyDigits)
  else if first = ['i', 'd'] then
    parts name.length (name.dropWhile fun c => !isNameEnd c) id
  else .error (.missingKey (.text (String.ofList first)))

def digits (n : Nat) : List Char := Nat.toDigits 10 n

def layOut (f : Field) (layout : List Char) (n : Nat) : Except Failure (List Char) :=
  match f.conversion with
  | none =>
    if layout = [] then .ok (digits n)
    else ((Spec.parse .number layout).mapError .badLayout).bind fun s => s.ofNumber n
  | some _ =>
    if layout = [] then .ok (digits n)
    else ((Spec.parse .text layout).mapError .badLayout).bind fun s => s.ofText (digits n)

def checkConversion (f : Field) : Except Failure Unit :=
  match f.conversion with
  | none => .ok ()
  | some c =>
    if c = 'r' ∨ c = 's' ∨ c = 'a' then .ok ()
    else .error (.badLayout (.unknownConversion c))

def expand : Nat → List Char → Nat → Except Failure (List Char)
  | 0, _, _ => .error (.badLayout .tooDeep)
  | depth + 1, cs, id => do
    let texts ← (parse cs).mapM fun
      | .char c => pure [c]
      | .faulty fault => throw (.badLayout fault)
      | .field f => do
        let n ← lookUp f.name id
        checkConversion f
        let layout ← if f.nested then expand depth f.layout id else pure f.layout
        layOut f layout n
    return texts.flatten

def depth : Nat := 2

def format (tagFormat : List Char) (id : Nat) : Except Failure (List Char) :=
  expand depth tagFormat id

end TagFormat

end ChatWindow.Image
