import ChatWindow.Text.Kinds
import ChatWindow.Text.Search

/-!
# TOML texts and keys

A text stands in quotes, on one line in single ones and on several in three of them; only between
double quotes does a backslash mean something. A key is one or more names with dots between them.
-/

namespace ChatWindow.Toml

def isSpace (c : Char) : Bool := c == ' ' || c == '\t'

def skip (cs : List Char) : List Char := cs.dropWhile isSpace

def skipLines (cs : List Char) : List Char := cs.dropWhile fun c => isSpace c || c == '\n'

def isIllegal (c : Char) : Bool := (c.toNat < 32 && c != '\t') || c.toNat == 127

def isIllegalInLines (c : Char) : Bool := isIllegal c && c != '\n'

def literal? (mark : List Char) (illegal : Char → Bool) (cs : List Char) :
    Option (List Char × List Char) := do
  let (body, rest) ← ChatWindow.Text.cut? mark cs
  if body.any illegal then none else some (body, rest)

def escape? : Char → Option Char
  | 'b' => some '\x08'
  | 't' => some '\t'
  | 'n' => some '\n'
  | 'f' => some '\x0c'
  | 'r' => some '\r'
  | '"' => some '"'
  | '\\' => some '\\'
  | _ => none

/-- What follows a backslash; at the end of a line it takes away all blanks up to the next text. -/
def escaped? (multiline : Bool) : List Char → Option (List Char × List Char)
  | [] => none
  | 'u' :: rest => (Text.hexChar? 4 rest).map fun r => ([r.1], r.2)
  | 'U' :: rest => (Text.hexChar? 8 rest).map fun r => ([r.1], r.2)
  | c :: rest =>
    match escape? c with
    | some d => some ([d], rest)
    | none =>
      if multiline && c == '\n' then some ([], skipLines rest)
      else if multiline && isSpace c then
        match skip rest with
        | [] => some ([], [])
        | '\n' :: rest => some ([], skipLines rest)
        | _ => none
      else none

def basicFrom (multiline : Bool) : Nat → List Char → List Char → Option (List Char × List Char)
  | 0, _, _ => none
  | fuel + 1, read, cs =>
    match cs with
    | [] => none
    | '\\' :: rest => do
      let (s, rest) ← escaped? multiline rest
      basicFrom multiline fuel (s.reverse ++ read) rest
    | '"' :: rest =>
      if !multiline then some (read.reverse, rest)
      else
        match rest with
        | '"' :: '"' :: rest => some (read.reverse, rest)
        | rest => basicFrom multiline fuel ('"' :: read) rest
    | c :: rest =>
      if isIllegal c && !(multiline && c == '\n') then none
      else basicFrom multiline fuel (c :: read) rest

def basic? (multiline : Bool) (cs : List Char) : Option (List Char × List Char) :=
  basicFrom multiline (cs.length + 1) [] cs

def extraQuotes (mark : Char) (r : List Char × List Char) : List Char × List Char :=
  let extra := min 2 (r.2.takeWhile (· == mark)).length
  (r.1 ++ List.replicate extra mark, r.2.drop extra)

def dropLineEnd : List Char → List Char
  | '\n' :: rest => rest
  | cs => cs

def text? (cs : List Char) : Option (List Char × List Char) :=
  match cs with
  | '"' :: '"' :: '"' :: rest => (basic? true (dropLineEnd rest)).map (extraQuotes '"')
  | '"' :: rest => basic? false rest
  | '\'' :: '\'' :: '\'' :: rest =>
    (literal? ['\'', '\'', '\''] isIllegalInLines (dropLineEnd rest)).map (extraQuotes '\'')
  | '\'' :: rest => literal? ['\''] isIllegal rest
  | _ => none

def isBare (c : Char) : Bool := c.isAlphanum || c == '-' || c == '_'

def name? (cs : List Char) : Option (String × List Char) :=
  match cs with
  | '"' :: rest => (basic? false rest).map fun r => (String.ofList r.1, r.2)
  | '\'' :: rest => (literal? ['\''] isIllegal rest).map fun r => (String.ofList r.1, r.2)
  | _ =>
    let bare := cs.takeWhile isBare
    if bare.isEmpty then none else some (String.ofList bare, cs.dropWhile isBare)

def keyFrom : Nat → List Char → Option (List String × List Char)
  | 0, _ => none
  | fuel + 1, cs => do
    let (name, rest) ← name? cs
    match skip rest with
    | '.' :: rest =>
      let (names, rest) ← keyFrom fuel (skip rest)
      return (name :: names, rest)
    | rest => return ([name], rest)

def key? (cs : List Char) : Option (List String × List Char) := keyFrom (cs.length + 1) cs

end ChatWindow.Toml
