import ChatWindow.Text.Kinds
import ChatWindow.Text.Search

/-!
# YAML texts

The texts of a document: in single or double quotes, plain, or as a block of lines that stand
further in. Within a quoted or plain text a line end counts as a blank, and of several line ends
in a row all but the first count.
-/

namespace ChatWindow.Yaml

def isBreak (c : Char) : Bool :=
  c == '\n' || c.toNat == 0x85 || c.toNat == 0x2028 || c.toNat == 0x2029

def breakText (c : Char) : Char := if c.toNat = 0x85 then '\n' else c

def isSpace (c : Char) : Bool := c == ' ' || c == '\t'

def isGap (c : Char) : Bool := isSpace c || isBreak c

def atGap (cs : List Char) : Bool := (cs.head?.map isGap).getD true

def atBreak (cs : List Char) : Bool := (cs.head?.map isBreak).getD false

def atMark (cs : List Char) : Bool :=
  (cs.take 3 == ['-', '-', '-'] || cs.take 3 == ['.', '.', '.']) && atGap (cs.drop 3)

structure Gap where
  breaks : List Char
  marked : Bool
  rest : List Char

def gap (blank : Char → Bool) (cs : List Char) : Gap :=
  let rec go : Bool → List Char → Gap
    | _, [] => ⟨[], false, []⟩
    | lineStart, c :: rest =>
      if lineStart && atMark (c :: rest) then ⟨[], true, c :: rest⟩
      else if isBreak c then
        let g := go true rest
        { g with breaks := breakText c :: g.breaks }
      else if blank c then go false rest
      else ⟨[], false, c :: rest⟩
  go true cs

def folded (first : Char) (breaks : List Char) : List Char :=
  if breakText first != '\n' then breakText first :: breaks
  else if breaks.isEmpty then [' '] else breaks

/-! ## Quoted texts -/

def escape? : Char → Option Char
  | '0' => some '\x00'
  | 'a' => some '\x07'
  | 'b' => some '\x08'
  | 't' => some '\t'
  | '\t' => some '\t'
  | 'n' => some '\n'
  | 'v' => some '\x0b'
  | 'f' => some '\x0c'
  | 'r' => some '\r'
  | 'e' => some '\x1b'
  | ' ' => some ' '
  | '"' => some '"'
  | '\\' => some '\\'
  | '/' => some '/'
  | 'N' => some '\x85'
  | '_' => some '\xa0'
  | 'L' => some '\u2028'
  | 'P' => some '\u2029'
  | _ => none

def escaped? : List Char → Option (List Char × List Char)
  | [] => none
  | 'x' :: rest => (Text.hexChar? 2 rest).map fun r => ([r.1], r.2)
  | 'u' :: rest => (Text.hexChar? 4 rest).map fun r => ([r.1], r.2)
  | 'U' :: rest => (Text.hexChar? 8 rest).map fun r => ([r.1], r.2)
  | c :: rest =>
    match escape? c with
    | some d => some ([d], rest)
    | none =>
      if isBreak c then
        let g := gap isSpace rest
        if g.marked then none else some (g.breaks, g.rest)
      else none

def quotedFrom (quote : Char) : Nat → List Char → List Char → Option (List Char × List Char)
  | 0, _, _ => none
  | fuel + 1, read, cs =>
    match cs with
    | [] => none
    | c :: rest =>
      if c = quote then
        match rest with
        | d :: tail =>
          if quote = '\'' ∧ d = '\'' then quotedFrom quote fuel ('\'' :: read) tail
          else some (read.reverse, rest)
        | [] => some (read.reverse, [])
      else if quote = '"' ∧ c = '\\' then do
        let (s, rest) ← escaped? rest
        quotedFrom quote fuel (s.reverse ++ read) rest
      else if isGap c then
        let spaces := cs.takeWhile isSpace
        match cs.dropWhile isSpace with
        | [] => none
        | d :: rest =>
          if isBreak d then
            let g := gap isSpace rest
            if g.marked then none
            else quotedFrom quote fuel ((folded d g.breaks).reverse ++ read) g.rest
          else quotedFrom quote fuel (spaces.reverse ++ read) (d :: rest)
      else quotedFrom quote fuel (c :: read) rest

def quoted? (quote : Char) (cs : List Char) : Option (List Char × List Char) :=
  quotedFrom quote (cs.length + 1) [] cs

/-! ## Plain texts -/

def isFlowMark (c : Char) : Bool := [',', '[', ']', '\x7b', '\x7d'].contains c

def endsKey (inFlow : Bool) (cs : List Char) : Bool :=
  atGap cs || (inFlow && (cs.head?.map isFlowMark).getD false)

def chunk (inFlow : Bool) : List Char → List Char × List Char
  | [] => ([], [])
  | c :: rest =>
    if isGap c || (c == ':' && endsKey inFlow rest) || (inFlow && (isFlowMark c || c == '?')) then
      ([], c :: rest)
    else
      let (more, rest) := chunk inFlow rest
      (c :: more, rest)

structure Plain where
  text : List Char
  newLine : Bool
  rest : List Char

def separation (cs : List Char) : List Char × Bool × List Char :=
  let spaces := cs.takeWhile (· == ' ')
  match cs.dropWhile (· == ' ') with
  | [] => (spaces, false, [])
  | c :: rest =>
    if isBreak c then
      let g := gap (· == ' ') rest
      if g.marked then ([], true, g.rest) else (folded c g.breaks, true, g.rest)
    else (spaces, false, c :: rest)

def columnAfter (start : Nat) (consumed : List Char) : Nat :=
  let tail := consumed.reverse.takeWhile (!isBreak ·)
  if tail.length = consumed.length then start + tail.length else tail.length

def plainFrom (inFlow : Bool) (indent : Int) :
    Nat → Nat → List Char → Bool → List Char → List Char → Plain
  | 0, _, text, newLine, _, cs => ⟨text, newLine, cs⟩
  | fuel + 1, column, text, newLine, spaces, cs =>
    let (part, rest) := chunk inFlow cs
    if part.isEmpty || cs.head? == some '#' then ⟨text, newLine, cs⟩
    else
      let (gap, newLine, after) := separation rest
      let text := text ++ spaces ++ part
      let column := columnAfter column (cs.take (cs.length - after.length))
      let outside : Bool := !inFlow && decide ((column : Int) < indent)
      if gap.isEmpty || after.head? == some '#' || outside then
        ⟨text, newLine, after⟩
      else plainFrom inFlow indent fuel column text newLine gap after

def plain (inFlow : Bool) (indent : Int) (column : Nat) (cs : List Char) : Plain :=
  plainFrom inFlow indent (cs.length + 1) column [] false [] cs

/-! ## Blocks of lines -/

inductive Chomping where
  | strip | clip | keep
  deriving DecidableEq

structure BlockHeader where
  chomping : Chomping := .clip
  increment : Option Nat := none

def blockChomping? : Char → Option Chomping
  | '+' => some .keep
  | '-' => some .strip
  | _ => none

def blockIncrement? (c : Char) : Option Nat :=
  match Text.digit? 10 c with
  | some 0 => none
  | n => n

def blockHeader (cs : List Char) : BlockHeader × List Char :=
  match cs with
  | c :: rest =>
    match blockChomping? c, blockIncrement? c with
    | some chomping, _ =>
      match rest with
      | d :: tail =>
        match blockIncrement? d with
        | some n => (⟨chomping, some n⟩, tail)
        | none => (⟨chomping, none⟩, rest)
      | [] => (⟨chomping, none⟩, [])
    | none, some n =>
      match rest with
      | d :: tail =>
        match blockChomping? d with
        | some chomping => (⟨chomping, some n⟩, tail)
        | none => (⟨.clip, some n⟩, rest)
      | [] => (⟨.clip, some n⟩, [])
    | none, none => ({}, cs)
  | [] => ({}, [])

def restOfLine? (cs : List Char) : Option (List Char) :=
  let cs := cs.dropWhile (· == ' ')
  let cs := if cs.head? = some '#' then cs.dropWhile (!isBreak ·) else cs
  match cs with
  | [] => some []
  | c :: rest => if isBreak c then some rest else none

def leadingLines : Nat → Nat → List Char → List Char × Nat × List Char
  | column, most, ' ' :: rest => leadingLines (column + 1) (max most (column + 1)) rest
  | _, most, c :: rest =>
    if isBreak c then
      let (breaks, most, tail) := leadingLines 0 most rest
      (breakText c :: breaks, most, tail)
    else ([], most, c :: rest)
  | _, most, [] => ([], most, [])

def emptyLines (indent : Nat) : Nat → List Char → List Char × Nat × List Char
  | column, c :: rest =>
    if c = ' ' ∧ column < indent then emptyLines indent (column + 1) rest
    else if isBreak c then
      let (breaks, column, tail) := emptyLines indent 0 rest
      (breakText c :: breaks, column, tail)
    else ([], column, c :: rest)
  | column, [] => ([], column, [])

def blockFrom (fold : Bool) (chomping : Chomping) (indent : Nat) :
    Nat → List Char → List Char → List Char × List Char
  | 0, breaks, cs => (breaks, cs)
  | fuel + 1, breaks, cs =>
    let line := cs.takeWhile (!isBreak ·)
    let (ending, rest) : List Char × List Char := match cs.dropWhile (!isBreak ·) with
      | c :: rest => ([breakText c], rest)
      | [] => ([], [])
    let (next, column, after) := emptyLines indent 0 rest
    let text := breaks ++ line
    if column = indent ∧ after ≠ [] then
      let folds : Bool := fold && ending == ['\n'] && !(line.head?.map isSpace).getD false &&
        !(after.head?.map isSpace).getD false
      let joint := if folds then (if next.isEmpty then [' '] else []) else ending
      let (more, rest) := blockFrom fold chomping indent fuel next after
      (text ++ joint ++ more, rest)
    else
      (text ++ (if chomping = .strip then [] else ending) ++
        (if chomping = .keep then next else []), after)

def block? (fold : Bool) (outer : Int) (cs : List Char) : Option (List Char × List Char) := do
  let (header, rest) := blockHeader cs
  let rest ← if atGap rest && rest.head? != some '\t' then restOfLine? rest else none
  let least := (max (outer + 1) 1).toNat
  let (indent, breaks, column, rest) := match header.increment with
    | none =>
      let (breaks, most, after) := leadingLines 0 0 rest
      let column := columnAfter 0 (rest.take (rest.length - after.length))
      (max least most, breaks, column, after)
    | some n =>
      let (breaks, column, after) := emptyLines (least + n - 1) 0 rest
      (least + n - 1, breaks, column, after)
  if column = indent ∧ rest ≠ [] then
    return blockFrom fold header.chomping indent (rest.length + 1) breaks rest
  else return (if header.chomping = .keep then breaks else [], rest)

end ChatWindow.Yaml
