import ChatWindow.Yaml.Text

/-!
# YAML tokens

A document is cut into marks and texts. How far a line stands in says where a block begins and
ends, so the beginnings and ends of blocks are tokens too. That a text is a key shows only at the
colon after it: the place of the last text that may be a key is remembered, for each bracket that
is open, and the token for the key is put in front of it once the colon is met.
-/

namespace ChatWindow.Yaml

inductive Tag where
  | full (name : String)
  | short (handle suffix : String)
  deriving DecidableEq

inductive Token where
  | version
  | handle (name target : String)
  | otherDirective
  | documentStart
  | documentEnd
  | blockList
  | blockMap
  | blockEnd
  | openList
  | closeList
  | openMap
  | closeMap
  | key
  | value
  | item
  | comma
  | alias (name : String)
  | anchor (name : String)
  | tag (t : Tag)
  | text (s : String) (plain : Bool)
  deriving DecidableEq

/-- A token that may turn out to be a key, by its number and its place. On a line where no other
key can stand it has to be one. -/
structure Candidate where
  token : Nat
  required : Bool
  index : Nat
  line : Nat
  column : Nat

structure Lexer where
  rest : List Char
  index : Nat := 0
  line : Nat := 0
  column : Nat := 0
  depth : Nat := 0
  indent : Int := -1
  outer : List Int := []
  candidates : List (Nat × Candidate) := []
  keyAllowed : Bool := true
  tokens : Array Token := #[]

namespace Lexer

def advance (l : Lexer) (c : Char) : Lexer :=
  if isBreak c then { l with index := l.index + 1, line := l.line + 1, column := 0 }
  else if c.toNat = 0xfeff then { l with index := l.index + 1 }
  else { l with index := l.index + 1, column := l.column + 1 }

def moveTo (l : Lexer) (rest : List Char) : Lexer :=
  { (l.rest.take (l.rest.length - rest.length)).foldl advance l with rest }

def push (l : Lexer) (t : Token) : Lexer := { l with tokens := l.tokens.push t }

def insert (l : Lexer) (at' : Nat) (t : Token) : Lexer :=
  { l with tokens := (l.tokens.extract 0 at').push t ++ l.tokens.extract at' }

def trivia : Nat → List Char → Bool × List Char
  | 0, cs => (false, cs)
  | fuel + 1, cs =>
    let cs := cs.dropWhile (· == ' ')
    let cs := if cs.head? = some '#' then cs.dropWhile (!isBreak ·) else cs
    if atBreak cs then (true, (trivia fuel (cs.drop 1)).2) else (false, cs)

def skip (l : Lexer) : Lexer :=
  let (newLine, rest) := trivia (l.rest.length + 1) l.rest
  { l.moveTo rest with keyAllowed := l.keyAllowed || (newLine && l.depth == 0) }

def forget? (l : Lexer) : Option Lexer :=
  let stale := fun (c : Candidate) => c.line != l.line || decide (1024 < l.index - c.index)
  if l.candidates.any fun p => stale p.2 && p.2.required then none
  else some { l with candidates := l.candidates.filter fun p => !stale p.2 }

def candidate? (l : Lexer) : Option Candidate := (l.candidates.find? (·.1 == l.depth)).map (·.2)

def dropCandidate (l : Lexer) : Lexer :=
  { l with candidates := l.candidates.filter (·.1 != l.depth) }

def release? (l : Lexer) : Option Lexer :=
  match l.candidate? with
  | some c => if c.required then none else some l.dropCandidate
  | none => some l

def propose? (l : Lexer) : Option Lexer :=
  if l.keyAllowed then do
    let l ← l.release?
    let c : Candidate :=
      { token := l.tokens.size, required := l.depth == 0 && l.indent == l.column
        index := l.index, line := l.line, column := l.column }
    return { l with candidates := (l.depth, c) :: l.candidates }
  else some l

def closed (column : Int) : Int → List Int → Nat × Int × List Int
  | indent, [] => (0, indent, [])
  | indent, next :: outer =>
    if column < indent then
      let (n, r) := closed column next outer
      (n + 1, r)
    else (0, indent, next :: outer)

def closeBlocks (l : Lexer) (column : Int) : Lexer :=
  if l.depth = 0 then
    let (n, indent, outer) := closed column l.indent l.outer
    { l with indent, outer, tokens := l.tokens ++ Array.replicate n .blockEnd }
  else l

def indented? (l : Lexer) (column : Int) : Option Lexer :=
  if l.indent < column then some { l with indent := column, outer := l.indent :: l.outer } else none

def beginBlock (l : Lexer) (t : Token) : Lexer :=
  match l.indented? l.column with
  | some l => l.push t
  | none => l

def mark (l : Lexer) (n : Nat) (t : Token) : Lexer := (l.push t).moveTo (l.rest.drop n)

def openBracket? (l : Lexer) (t : Token) : Option Lexer := do
  let l ← l.propose?
  return { l.mark 1 t with depth := l.depth + 1, keyAllowed := true }

def closeBracket? (l : Lexer) (t : Token) : Option Lexer := do
  let l ← l.release?
  match l.depth with
  | 0 => none
  | depth + 1 => return { l.mark 1 t with depth, keyAllowed := false }

def comma? (l : Lexer) : Option Lexer := do
  let l ← l.release?
  return { l.mark 1 .comma with keyAllowed := true }

def item? (l : Lexer) : Option Lexer := do
  if l.depth = 0 ∧ !l.keyAllowed then none
  let l := if l.depth = 0 then l.beginBlock .blockList else l
  let l ← l.release?
  return { l.mark 1 .item with keyAllowed := true }

def key? (l : Lexer) : Option Lexer := do
  if l.depth = 0 ∧ !l.keyAllowed then none
  let l := if l.depth = 0 then l.beginBlock .blockMap else l
  let l ← l.release?
  return { l.mark 1 .key with keyAllowed := l.depth == 0 }

def value? (l : Lexer) : Option Lexer :=
  match l.candidate? with
  | some c =>
    let l := l.dropCandidate.insert c.token .key
    let l := if l.depth = 0 then
        match l.indented? c.column with
        | some l => l.insert c.token .blockMap
        | none => l
      else l
    some { l.mark 1 .value with keyAllowed := false }
  | none => do
    if l.depth = 0 ∧ !l.keyAllowed then none
    let l := if l.depth = 0 then l.beginBlock .blockMap else l
    return { l.mark 1 .value with keyAllowed := l.depth == 0 }

def isNameChar (c : Char) : Bool := c.isAlphanum || c == '-' || c == '_'

def name? (l : Lexer) (make : String → Token) : Option Lexer := do
  let l ← l.propose?
  let cs := l.rest.drop 1
  let name := cs.takeWhile isNameChar
  let rest := cs.dropWhile isNameChar
  let ends := atGap rest ||
    (rest.head?.map fun c => ['?', ':', ',', ']', '\x7d', '%', '@', '\x60'].contains c).getD false
  if name.isEmpty || !ends then none
  return { (l.push (make (String.ofList name))).moveTo rest with keyAllowed := false }

def isUriChar (c : Char) : Bool :=
  c.isAlphanum || [
    '-', ';', '/', '?', ':', '@', '&', '=', '+', '$', ',', '_', '.', '!', '~', '*', '\'', '(', ')',
    '[', ']'].contains c

def handle? (cs : List Char) : Option (String × List Char) :=
  match cs with
  | '!' :: rest =>
    let name := rest.takeWhile isNameChar
    match rest.dropWhile isNameChar with
    | '!' :: tail => some (String.ofList ('!' :: name ++ ['!']), tail)
    | tail => if name.isEmpty && tail.head? == some ' ' then some ("!", rest) else none
  | _ => none

def suffix? (cs : List Char) : Option (String × List Char) :=
  let s := cs.takeWhile isUriChar
  if s.isEmpty then none else some (String.ofList s, cs.dropWhile isUriChar)

def tagText? (cs : List Char) : Option (Tag × List Char) :=
  match cs.drop 1 with
  | '<' :: rest => do
    let (name, rest) ← suffix? rest
    match rest with
    | '>' :: rest => return (.full name, rest)
    | _ => none
  | rest =>
    if atGap rest then some (.full "!", rest)
    else
      let word := rest.takeWhile fun c => c == '\t' || !isGap c
      if word.contains '!' then do
        let (handle, rest) ← handle? cs
        let (s, rest) ← suffix? rest
        return (.short handle s, rest)
      else do
        let (s, rest) ← suffix? rest
        return (.short "!" s, rest)

def tag? (l : Lexer) : Option Lexer := do
  let l ← l.propose?
  let (t, rest) ← tagText? l.rest
  if !atGap rest || rest.head? = some '\t' then none
  return { (l.push (.tag t)).moveTo rest with keyAllowed := false }

def quoted? (l : Lexer) (quote : Char) : Option Lexer := do
  let l ← l.propose?
  let (s, rest) ← Yaml.quoted? quote (l.rest.drop 1)
  return { (l.push (.text (String.ofList s) false)).moveTo rest with keyAllowed := false }

def plain? (l : Lexer) : Option Lexer := do
  let l ← l.propose?
  let p := Yaml.plain (l.depth != 0) (l.indent + 1) l.column l.rest
  return { (l.push (.text (String.ofList p.text) true)).moveTo p.rest with keyAllowed := p.newLine }

def block? (l : Lexer) (fold : Bool) : Option Lexer := do
  let l ← l.release?
  let (s, rest) ← Yaml.block? fold l.indent (l.rest.drop 1)
  return { (l.push (.text (String.ofList s) false)).moveTo rest with keyAllowed := true }

def versionRest? (cs : List Char) : Option (List Char) :=
  let digits := cs.takeWhile Char.isDigit
  match cs.dropWhile Char.isDigit with
  | '.' :: rest =>
    if Text.natOfDigits 10 digits = 1 ∧ !(rest.takeWhile Char.isDigit).isEmpty then
      some (rest.dropWhile Char.isDigit)
    else none
  | _ => none

def directive? (cs : List Char) : Option (Token × List Char) := do
  let name := cs.takeWhile isNameChar
  let rest := cs.dropWhile isNameChar
  if name.isEmpty || !atGap rest then none
  if name = "YAML".toList then
    return (.version, ← versionRest? (rest.dropWhile (· == ' ')))
  else if name = "TAG".toList then
    let (handle, rest) ← handle? (rest.dropWhile (· == ' '))
    if rest.head? ≠ some ' ' then none
    let (target, rest) ← suffix? (rest.dropWhile (· == ' '))
    return (.handle handle target, rest)
  else return (.otherDirective, rest.dropWhile (!isBreak ·))

def topLevel? (l : Lexer) : Option Lexer := do
  let l ← (l.closeBlocks (-1)).release?
  return { l with keyAllowed := false }

def directiveLine? (l : Lexer) : Option Lexer := do
  let l ← l.topLevel?
  let (t, rest) ← directive? (l.rest.drop 1)
  let after ← restOfLine? rest
  return (l.push t).moveTo after

def startsPlain (inFlow : Bool) (cs : List Char) : Bool :=
  match cs with
  | [] => false
  | c :: rest =>
    let special := [
      '-', '?', ':', ',', '[', ']', '\x7b', '\x7d', '#', '&', '*', '!', '|', '>', '\'', '"', '%',
      '@', '\x60']
    (!isGap c && !special.contains c) ||
      (!atGap rest && (c == '-' || (!inFlow && (c == '?' || c == ':'))))

def token? (l : Lexer) (c : Char) (rest : List Char) : Option Lexer :=
  let lineStart : Bool := l.column == 0
  let inFlow : Bool := l.depth != 0
  if lineStart && c == '%' then l.directiveLine?
  else if lineStart && atMark l.rest then
    l.topLevel?.map (·.mark 3 (if c = '-' then .documentStart else .documentEnd))
  else if c = '[' then l.openBracket? .openList
  else if c = '\x7b' then l.openBracket? .openMap
  else if c = ']' then l.closeBracket? .closeList
  else if c = '\x7d' then l.closeBracket? .closeMap
  else if c = ',' then l.comma?
  else if c == '-' && atGap rest then l.item?
  else if c == '?' && (inFlow || atGap rest) then l.key?
  else if c == ':' && (inFlow || atGap rest) then l.value?
  else if c = '*' then l.name? .alias
  else if c = '&' then l.name? .anchor
  else if c = '!' then l.tag?
  else if c == '|' && !inFlow then l.block? false
  else if c == '>' && !inFlow then l.block? true
  else if c = '\'' ∨ c = '"' then l.quoted? c
  else if startsPlain inFlow l.rest then l.plain?
  else none

def run? : Nat → Lexer → Option (Array Token)
  | 0, _ => none
  | fuel + 1, l => do
    let l ← l.skip.forget?
    let l := l.closeBlocks l.column
    match l.rest with
    | [] =>
      let l ← (l.closeBlocks (-1)).release?
      return l.tokens
    | c :: rest => run? fuel (← l.token? c rest)

end Lexer

def isPrintable (c : Char) : Bool :=
  let n := c.toNat
  n == 9 || n == 10 || n == 13 || (0x20 ≤ n && n ≤ 0x7e) || n == 0x85 ||
    (0xa0 ≤ n && n ≤ 0xd7ff) || (0xe000 ≤ n && n ≤ 0xfffd) || 0x10000 ≤ n

def dropMark : List Char → List Char
  | c :: rest => if c.toNat = 0xfeff then rest else c :: rest
  | [] => []

def tokens? (cs : List Char) : Option (Array Token) :=
  if cs.all isPrintable then Lexer.run? (cs.length + 2) { rest := dropMark cs } else none

end ChatWindow.Yaml
