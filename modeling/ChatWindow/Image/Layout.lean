import ChatWindow.Failure
import ChatWindow.Number.Fixed
import ChatWindow.Value.Display

/-!
# Laying out a number

What follows the colon of a field: a filling character and an alignment, a sign, a width, a mark
between groups of digits, a precision, and a letter for the kind of text. The number is an image's
id, so it is never negative.
-/

namespace ChatWindow.Image

inductive Align where
  | left | right | center | afterSign
  deriving DecidableEq

structure Spec where
  fill : Char := ' '
  align : Option Align := none
  sign : Option Char := none
  zeroSign : Bool := false
  alternate : Bool := false
  width : Nat := 0
  separator : Option Char := none
  precision : Option Nat := none
  code : Option Char := none

inductive Subject where
  | number
  | text
  deriving DecidableEq

def Subject.kind : Subject → String
  | .number => "int"
  | .text => "str"

def Subject.defaultCode : Subject → Char
  | .number => 'd'
  | .text => 's'

namespace Spec

def alignOf? : Char → Option Align
  | '<' => some .left
  | '>' => some .right
  | '^' => some .center
  | '=' => some .afterSign
  | _ => none

def takeAlign (s : Spec) : List Char → Spec × Bool × List Char
  | [] => (s, false, [])
  | [c] =>
    match alignOf? c with
    | some a => ({ s with align := some a }, false, [])
    | none => (s, false, [c])
  | c :: d :: rest =>
    match alignOf? d with
    | some a => ({ s with fill := c, align := some a }, true, rest)
    | none =>
      match alignOf? c with
      | some a => ({ s with align := some a }, false, d :: rest)
      | none => (s, false, c :: d :: rest)

def takeSign (s : Spec) : List Char → Spec × List Char
  | '+' :: rest => ({ s with sign := some '+' }, rest)
  | '-' :: rest => ({ s with sign := some '-' }, rest)
  | ' ' :: rest => ({ s with sign := some ' ' }, rest)
  | rest => (s, rest)

def takeMark (c : Char) : List Char → Bool × List Char
  | [] => (false, [])
  | d :: rest => if c = d then (true, rest) else (false, d :: rest)

def takeZero (subject : Subject) (s : Spec) (filled : Bool) (cs : List Char) :
    Spec × List Char :=
  match takeMark '0' cs with
  | (true, rest) =>
    if filled then (s, cs)
    else if s.align.isNone && subject == .number then
      ({ s with fill := '0', align := some .afterSign }, rest)
    else ({ s with fill := '0' }, rest)
  | (false, rest) => (s, rest)

def natOf (cs : List Char) : Nat := cs.foldl (fun n c => 10 * n + (c.toNat - 48)) 0

def takeNat (cs : List Char) : Except LayoutFault (Option Nat × List Char) :=
  let digits := cs.takeWhile Char.isDigit
  if digits.isEmpty then .ok (none, cs)
  else if natOf digits < pow2 63 then .ok (some (natOf digits), cs.dropWhile Char.isDigit)
  else .error .tooManyDigits

def takeSeparator (cs : List Char) : Except LayoutFault (Option Char × List Char) :=
  match cs with
  | ',' :: '_' :: _ => .error .bothSeparators
  | ',' :: rest => .ok (some ',', rest)
  | '_' :: ',' :: _ => .error .bothSeparators
  | '_' :: rest => .ok (some '_', rest)
  | cs => .ok (none, cs)

def takePrecision (cs : List Char) : Except LayoutFault (Option Nat × List Char) :=
  match cs with
  | '.' :: rest => do
    let (n, rest) ← takeNat rest
    if n.isNone then throw .missingPrecision
    return (n, rest)
  | cs => .ok (none, cs)

def separates (separator code : Char) : Bool :=
  ['d', 'e', 'f', 'g', 'E', 'G', '%', 'F'].contains code ||
    (separator == '_' && ['b', 'o', 'x', 'X'].contains code)

def checkSeparator (subject : Subject) (s : Spec) : Except LayoutFault Spec :=
  match s.separator with
  | none => .ok s
  | some separator =>
    let code := s.code.getD subject.defaultCode
    if separates separator code then .ok s else .error (.separatorWith separator code)

def parse (subject : Subject) (cs : List Char) : Except LayoutFault Spec := do
  let whole := cs
  let (s, filled, cs) := takeAlign {} cs
  let (s, cs) := takeSign s cs
  let (zeroSign, cs) := takeMark 'z' cs
  let (alternate, cs) := takeMark '#' cs
  let (s, cs) := takeZero subject { s with zeroSign, alternate } filled cs
  let (width, cs) ← takeNat cs
  let (separator, cs) ← takeSeparator cs
  let (precision, cs) ← takePrecision cs
  let s := { s with width := width.getD 0, separator, precision }
  match cs with
  | [] => checkSeparator subject s
  | [c] => checkSeparator subject { s with code := some c }
  | _ => throw (.badSpec (String.ofList whole) subject.kind)

def pad (s : Spec) (align : Align) (lead body : List Char) : List Char :=
  let missing := s.width - (lead.length + body.length)
  match align with
  | .left => lead ++ body ++ List.replicate missing s.fill
  | .right => List.replicate missing s.fill ++ lead ++ body
  | .afterSign => lead ++ List.replicate missing s.fill ++ body
  | .center =>
    List.replicate (missing / 2) s.fill ++ lead ++ body ++
      List.replicate (missing - missing / 2) s.fill

/-- Digits from the right in groups, zeros added until the width is reached. -/
def groupFrom (size : Nat) (mark : Char) : Nat → Int → List Char → List Char
  | 0, _, _ => []
  | fuel + 1, least, digits =>
    let n := min size (max (max digits.length least.toNat) 1)
    let group := digits.take n ++ List.replicate (n - digits.length) '0'
    let rest := digits.drop n
    let least := least - n
    if rest.isEmpty && decide (least ≤ 0) then group
    else group ++ mark :: groupFrom size mark fuel (least - 1) rest

def grouped (size : Nat) (mark : Char) (least : Nat) (digits : List Char) : List Char :=
  (groupFrom size mark (digits.length + least + 1) least digits.reverse).reverse

def number (s : Spec) (lead digits rest : List Char) (size : Nat) : List Char :=
  let align := s.align.getD .right
  let zeros : Bool := s.fill == '0' && align == .afterSign
  let least := if zeros then s.width - (lead.length + rest.length) else 0
  let digits := match s.separator with
    | some mark => grouped size mark least digits
    | none => List.replicate (least - digits.length) '0' ++ digits
  s.pad align lead (digits ++ rest)

def signText (s : Spec) : List Char :=
  match s.sign with
  | some '+' => ['+']
  | some ' ' => [' ']
  | _ => []

def integer (s : Spec) (code : Char) (n : Nat) : List Char :=
  let digits := match code with
    | 'b' => Text.binary n
    | 'o' => Text.octal n
    | 'x' => Text.hexadecimal n
    | 'X' => Text.upper (Text.hexadecimal n)
    | _ => Nat.toDigits 10 n
  let radix := ['b', 'o', 'x', 'X'].contains code
  let mark := if s.alternate && radix then ['0', code] else []
  s.number (signText s ++ mark) digits [] (if radix then 4 else 3)

def character (s : Spec) (n : Nat) : Except Failure (List Char) :=
  if s.sign.isSome then .error (.badLayout .signForCharacter)
  else if s.alternate then .error (.badLayout .alternateForCharacter)
  else if 0x110000 ≤ n then .error (.badNumber .characterRange)
  else .ok (s.pad (s.align.getD .right) [] [Char.ofNat n])

def realText (s : Spec) (code : Char) (x : Float) : List Char :=
  let places := s.precision.getD 6
  let body := match code.toLower with
    | 'e' => Fixed.scientific places x
    | 'g' => Fixed.general places s.alternate x
    | '%' => Fixed.text places (x * 100) ++ "%"
    | _ => Fixed.text places x
  if code.isUpper then Text.upper body.toList else body.toList

def real (s : Spec) (code : Char) (n : Nat) : Except Failure (List Char) :=
  match Binary64.ofInt? n with
  | none => .error (.badNumber .tooLargeForReal)
  | some x =>
    let body := realText s code x
    let digits := body.takeWhile Char.isDigit
    let rest := body.dropWhile Char.isDigit
    let rest := if s.alternate && !rest.contains '.' then '.' :: rest else rest
    .ok (s.number (signText s) digits rest 3)

def ofNumber (s : Spec) (n : Nat) : Except Failure (List Char) :=
  let code := s.code.getD 'd'
  if ['e', 'E', 'f', 'F', 'g', 'G', '%'].contains code then s.real code n
  else if !(['b', 'c', 'd', 'o', 'x', 'X', 'n'].contains code) then
    .error (.badLayout (.unknownCode code "int"))
  else if s.precision.isSome then .error (.badLayout .precisionForInteger)
  else if s.zeroSign then .error (.badLayout .zeroSignForInteger)
  else if code = 'c' then s.character n
  else .ok (s.integer code n)

def ofText (s : Spec) (text : List Char) : Except Failure (List Char) :=
  let code := s.code.getD 's'
  if code != 's' then .error (.badLayout (.unknownCode code "str"))
  else if s.sign = some ' ' then .error (.badLayout .spaceForText)
  else if s.sign.isSome then .error (.badLayout .signForText)
  else if s.zeroSign then .error (.badLayout .zeroSignForText)
  else if s.alternate then .error (.badLayout .alternateForText)
  else if s.align = some .afterSign then .error (.badLayout .alignmentForText)
  else
    .ok (s.pad (s.align.getD .left) [] (match s.precision with
      | some n => text.take n
      | none => text))

end Spec

end ChatWindow.Image
