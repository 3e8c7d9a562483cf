import ChatWindow.Number.Fixed
import ChatWindow.Value.Display
import ChatWindow.Value.Arithmetic

/-!
# Messages with arguments

A percent sign starts a directive: a name in parentheses, flags, a width, a precision and a letter
for the kind of text wanted. Directives take the arguments in turn, or by name from a single
record.
-/

namespace ChatWindow.Percent

structure Supply where
  queue : List Value
  named : Option Fields

/-- A single record that is not empty gives its fields by name. -/
def Supply.ofList : List Value → Supply
  | [.record (p :: fields)] => ⟨[.record (p :: fields)], some (p :: fields)⟩
  | args => ⟨args, none⟩

structure Flags where
  left : Bool := false
  sign : Bool := false
  blank : Bool := false
  alternate : Bool := false
  zero : Bool := false

structure Directive where
  flags : Flags
  width : Nat
  precision : Option Nat

def fail {α : Type} (f : PercentFault) : Except Failure α := .error (.badMessage f)

def takeFlags : Flags → List Code → Flags × List Code
  | f, .char '-' :: rest => takeFlags { f with left := true } rest
  | f, .char '+' :: rest => takeFlags { f with sign := true } rest
  | f, .char ' ' :: rest => takeFlags { f with blank := true } rest
  | f, .char '#' :: rest => takeFlags { f with alternate := true } rest
  | f, .char '0' :: rest => takeFlags { f with zero := true } rest
  | f, rest => (f, rest)

def natOf (cs : List Code) : Nat := cs.foldl (fun n c => 10 * n + (c.toNat - 48)) 0

def next (s : Supply) : Except Failure (Value × Supply) :=
  match s.queue with
  | [] => fail .tooFewArguments
  | v :: rest => .ok (v, { s with queue := rest })

def takeSize (size : SizeName) (s : Supply) (cs : List Code) :
    Except Failure (Int × Supply × List Code) :=
  let limit : Int := pow2 (size.bits - 1)
  match cs with
  | .char '*' :: rest => do
    let (v, s) ← next s
    match v.int? with
    | some n =>
      if -limit ≤ n ∧ n < limit then return (n, s, rest)
      else throw (.badNumber (.tooLargeForWord size.word))
    | none => fail .starKind
  | _ =>
    let n : Int := natOf (cs.takeWhile Code.isDigit)
    if n < limit then .ok (n, s, cs.dropWhile Code.isDigit) else fail (.sizeTooBig size)

def takePrecision (s : Supply) (cs : List Code) :
    Except Failure (Option Nat × Supply × List Code) :=
  match cs with
  | .char '.' :: rest => do
    let (n, s, rest) ← takeSize .precision s rest
    return (some n.toNat, s, rest)
  | _ => .ok (none, s, cs)

def takeName : Nat → List Code → Option (List Code × List Code)
  | _, [] => none
  | depth, .char ')' :: rest =>
    if depth = 0 then some ([], rest)
    else (takeName (depth - 1) rest).map fun r => (.char ')' :: r.1, r.2)
  | depth, .char '(' :: rest =>
    (takeName (depth + 1) rest).map fun r => (.char '(' :: r.1, r.2)
  | depth, c :: rest => (takeName depth rest).map fun r => (c :: r.1, r.2)

def takeKey (s : Supply) (cs : List Code) : Except Failure (Supply × List Code) :=
  match cs with
  | .char '(' :: rest =>
    match s.named with
    | none => fail .noMapping
    | some fields =>
      match takeName 0 rest with
      | none => fail .incompleteKey
      | some (name, rest) =>
        match fields.get? (.ofCodes name) with
        | some v => .ok (⟨[v], s.named⟩, rest)
        | none => .error (.missingKey (.text (.ofCodes name)))
  | _ => .ok (s, cs)

def dropSizeLetter : List Code → List Code
  | .char 'h' :: rest => rest
  | .char 'l' :: rest => rest
  | .char 'L' :: rest => rest
  | cs => cs

def padText (d : Directive) (body : List Code) : List Code :=
  let fill := List.replicate (d.width - body.length) (.char ' ')
  if d.flags.left then body ++ fill else fill ++ body

def signOf (f : Flags) (negative : Bool) : List Char :=
  if negative then ['-'] else if f.sign then ['+'] else if f.blank then [' '] else []

def padNumber (d : Directive) (lead body : List Char) : List Char :=
  let missing := d.width - (lead.length + body.length)
  if d.flags.left then lead ++ body ++ List.replicate missing ' '
  else if d.flags.zero then lead ++ List.replicate missing '0' ++ body
  else List.replicate missing ' ' ++ lead ++ body

def formatText (d : Directive) (t : Text) : List Code :=
  padText d (match d.precision with
    | some n => t.codes.take n
    | none => t.codes)

def wholeOf (c : Char) (v : Value) : Except Failure Int :=
  match v.number? with
  | some (.int n) => .ok n
  | some (.real x) =>
    match Binary64.read x with
    | .finite _ => .ok ((Binary64.truncate? x).getD 0)
    | .infinite _ => .error (.badNumber .infinite)
    | .notANumber => .error (.badNumber .notANumber)
  | none => fail (.notReal c v.kind)

def formatInt (d : Directive) (c : Char) (n : Int) : List Char :=
  let base := if c = 'o' then Text.octal n.natAbs
    else if c = 'x' then Text.hexadecimal n.natAbs
    else if c = 'X' then Text.upper (Text.hexadecimal n.natAbs)
    else Nat.toDigits 10 n.natAbs
  let digits := List.replicate (d.precision.getD 0 - base.length) '0' ++ base
  let mark := if d.flags.alternate && (c == 'o' || c == 'x' || c == 'X') then ['0', c] else []
  padNumber d (signOf d.flags (n < 0) ++ mark) digits

def realOf (v : Value) : Except Failure Float :=
  match v.number? with
  | some n => n.toReal
  | none => fail (.notFloat v.kind)

def withPoint (body : List Char) : List Char :=
  let digits := body.takeWhile Char.isDigit
  if digits.isEmpty || body.contains '.' then body
  else digits ++ '.' :: body.dropWhile Char.isDigit

def formatReal (d : Directive) (c : Char) (x : Float) : List Char :=
  let places := d.precision.getD 6
  let body := match c.toLower with
    | 'e' => Fixed.scientific places x
    | 'g' => Fixed.general places d.flags.alternate x
    | _ => Fixed.text places x
  let chars := if c.isUpper then Text.upper body.toList else body.toList
  let finish := fun body => if d.flags.alternate then withPoint body else body
  match chars with
  | '-' :: rest => padNumber d ['-'] (finish rest)
  | _ => padNumber d (signOf d.flags false) (finish chars)

def formatChar (d : Directive) (v : Value) : Except Failure (List Code) :=
  match v with
  | .text s =>
    match s.codes with
    | [c] => .ok (padText d [c])
    | _ => fail .notCharacter
  | _ =>
    match v.int? with
    | some n =>
      if 0 ≤ n ∧ n < 0x110000 then .ok (padText d [.ofNat n.toNat])
      else .error (.badNumber .characterRange)
    | none => fail .notCharacter

def formatNumber (d : Directive) (c : Char) (v : Value) : Except Failure (List Char) :=
  if ['d', 'i', 'u'].contains c then (wholeOf c v).map (formatInt d c)
  else if ['o', 'x', 'X'].contains c then
    match v.int? with
    | some n => .ok (formatInt d c n)
    | none => fail (.notInteger c v.kind)
  else (realOf v).map (formatReal d c)

def numberLetters : List Char :=
  ['d', 'i', 'u', 'o', 'x', 'X', 'e', 'E', 'f', 'F', 'g', 'G']

def convert (d : Directive) (c : Code) (index : Nat) (v : Value) : Except Failure (List Code) :=
  match c with
  | .char 's' => .ok (formatText d v.toText)
  | .char 'r' => .ok (formatText d v.quoted)
  | .char 'a' => .ok (formatText d (String.ofList (Text.ascii v.quoted.toList)))
  | .char 'c' => formatChar d v
  | .char c =>
    if numberLetters.contains c then (formatNumber d c v).map (·.map .char)
    else fail (.unknownDirective c index)
  | .half _ => fail (.unknownDirective c index)

/-- What a directive gives, with the arguments and the text that are left. `total` is the length
of the whole message. -/
def directive (total : Nat) (s : Supply) (cs : List Code) :
    Except Failure (List Code × Supply × List Code) := do
  let (s, cs) ← takeKey s cs
  let (flags, cs) := takeFlags {} cs
  let (width, s, cs) ← takeSize .width s cs
  let (precision, s, cs) ← takePrecision s cs
  let flags := if width < 0 then { flags with left := true } else flags
  match dropSizeLetter cs with
  | [] => fail .incomplete
  | c :: rest =>
    let (v, s) ← next s
    let index := total - rest.length - 1
    let body ← convert ⟨flags, width.natAbs, precision⟩ c index v
    return (body, s, rest)

/-- At most one character or directive is read for each unit of fuel. -/
def expand (total : Nat) : Nat → Supply → List Code → Except Failure (List Code)
  | 0, _, _ => .ok []
  | _ + 1, s, [] =>
    if s.named.isNone && !s.queue.isEmpty then fail .tooManyArguments else .ok []
  | fuel + 1, s, .char '%' :: .char '%' :: rest =>
    (expand total fuel s rest).map (.char '%' :: ·)
  | fuel + 1, s, .char '%' :: rest => do
    let (body, s, rest) ← directive total s rest
    return body ++ (← expand total fuel s rest)
  | fuel + 1, s, c :: rest => (expand total fuel s rest).map (c :: ·)

def format (message : Text) (args : List Value) : Except Failure Text :=
  if args.isEmpty then .ok message
  else
    let cs := message.codes
    (expand cs.length (cs.length + 1) (.ofList args) cs).map Text.ofCodes

end ChatWindow.Percent
