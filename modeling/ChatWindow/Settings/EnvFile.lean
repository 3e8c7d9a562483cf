import ChatWindow.Text.Kinds
import ChatWindow.Text.Search
import ChatWindow.Value

/-!
# Environment files

One variable a line, with an equals sign before its value; without one it has none. Values may
stand in quotes and go over several lines there. A comment starts with a hash sign, after a blank
if a value without quotes comes before it. A line that cannot be read is passed over. A name in
braces after a dollar sign stands for the value that it has by then.
-/

namespace ChatWindow.EnvFile

def isLineEnd (c : Char) : Bool := c == '\n' || c == '\r'

def isInlineBlank (c : Char) : Bool := Text.isBlank c && !isLineEnd c

def skip (cs : List Char) : List Char := cs.dropWhile isInlineBlank

def dropLine (cs : List Char) : List Char := (cs.dropWhile (!isLineEnd ·)).drop 1

abbrev Step (α : Type) := Except (List Char) (α × List Char)

/-- The text up to a quote without a backslash in front of it. Where there is none, the last quote
ends the text, its backslash included. -/
def quoted? (quote : Char) (cs : List Char) : Option (List Char × List Char) :=
  let prepend := fun (s : List Char) (r : List Char × List Char) => (s ++ r.1, r.2)
  let rec go : List Char → Option (List Char × List Char) × Option (List Char × List Char)
    | [] => (none, none)
    | '\\' :: c :: rest =>
      if c = quote then
        let (free, last) := go rest
        (free.map (prepend ['\\', c]), (last.map (prepend ['\\', c])).or (some (['\\'], rest)))
      else
        let (free, last) := go (c :: rest)
        (free.map (prepend ['\\']), last.map (prepend ['\\']))
    | c :: rest =>
      if c = quote then (some ([], rest), none)
      else
        let (free, last) := go rest
        (free.map (prepend [c]), last.map (prepend [c]))
  let (free, last) := go cs
  free.or last

def singleEscape? : Char → Option Char
  | '\\' => some '\\'
  | '\'' => some '\''
  | _ => none

def doubleEscape? : Char → Option Char
  | '\\' => some '\\'
  | '\'' => some '\''
  | '"' => some '"'
  | 'a' => some '\x07'
  | 'b' => some '\x08'
  | 'f' => some '\x0c'
  | 'n' => some '\n'
  | 'r' => some '\r'
  | 't' => some '\t'
  | 'v' => some '\x0b'
  | _ => none

def unescape (escape? : Char → Option Char) : List Char → List Char
  | '\\' :: c :: rest =>
    match escape? c with
    | some d => d :: unescape escape? rest
    | none => '\\' :: unescape escape? (c :: rest)
  | c :: rest => c :: unescape escape? rest
  | [] => []

def uncommented : Bool → List Char → List Char
  | _, [] => []
  | afterBlank, c :: rest =>
    if afterBlank && c == '#' then [] else c :: uncommented (Text.isBlank c) rest

def value (cs : List Char) : Step (List Char) :=
  match cs with
  | '\'' :: rest =>
    match quoted? '\'' rest with
    | some (s, rest) => .ok (unescape singleEscape? s, rest)
    | none => .error cs
  | '"' :: rest =>
    match quoted? '"' rest with
    | some (s, rest) => .ok (unescape doubleEscape? s, rest)
    | none => .error cs
  | _ =>
    let line := cs.takeWhile (!isLineEnd ·)
    .ok (Text.trimRight (uncommented false line), cs.dropWhile (!isLineEnd ·))

def name (cs : List Char) : Step (Option (List Char)) :=
  match cs with
  | '#' :: _ => .ok (none, cs)
  | '\'' :: rest =>
    match rest.takeWhile (· != '\''), rest.dropWhile (· != '\'') with
    | c :: s, _ :: rest => .ok (some (c :: s), rest)
    | _, _ => .error cs
  | _ =>
    let stops := fun c => c == '=' || c == '#' || Text.isBlank c
    let s := cs.takeWhile (!stops ·)
    if s.isEmpty then .error cs else .ok (some s, cs.dropWhile (!stops ·))

def dropExport (cs : List Char) : List Char :=
  match Text.after? "export".toList cs with
  | some (c :: rest) => if isInlineBlank c then skip rest else cs
  | _ => cs

def lineEnd (cs : List Char) : Except (List Char) (List Char) :=
  let commented := match skip cs with
    | '#' :: rest => rest.dropWhile (!isLineEnd ·)
    | _ => cs
  match skip commented with
  | [] => .ok []
  | c :: rest => if isLineEnd c then .ok rest else .error commented

def binding (cs : List Char) :
    Except (List Char) (Option (List Char × Option (List Char)) × List Char) := do
  let (key, rest) ← name (dropExport cs)
  match skip rest with
  | '=' :: rest =>
    let (v, rest) ← value (skip rest)
    return (key.map (·, some v), ← lineEnd rest)
  | rest => return (key.map (·, none), ← lineEnd rest)

def bindings : Nat → List Char → List (List Char × Option (List Char))
  | 0, _ => []
  | fuel + 1, cs =>
    match Text.trimLeft cs with
    | [] => []
    | cs =>
      match binding cs with
      | .ok (some b, rest) => b :: bindings fuel rest
      | .ok (none, rest) => bindings fuel rest
      | .error rest => bindings fuel (dropLine rest)

def reference? (cs : List Char) : Option (String × List Char × List Char) :=
  match cs with
  | '$' :: '\x7b' :: rest =>
    let stops := fun c => c == '\x7d' || c == ':'
    let name := String.ofList (rest.takeWhile (!stops ·))
    match rest.dropWhile (!stops ·) with
    | '\x7d' :: tail => some (name, [], tail)
    | ':' :: '-' :: tail =>
      match tail.dropWhile (· != '\x7d') with
      | _ :: after => some (name, tail.takeWhile (· != '\x7d'), after)
      | [] => none
    | _ => none
  | _ => none

def lookup (vars : Fields) (name : String) (default : List Char) : List Char :=
  match vars.get? name with
  | some (.text s) => s.shown.toList
  | some _ => []
  | none => default

def expand (vars : Fields) : Nat → List Char → List Char
  | 0, cs => cs
  | _, [] => []
  | fuel + 1, c :: rest =>
    match reference? (c :: rest) with
    | some (name, default, rest) => lookup vars name default ++ expand vars fuel rest
    | none => c :: expand vars fuel rest

def assign (around : Fields) : Fields → List (List Char × Option (List Char)) → Fields
  | vars, [] => vars
  | vars, (name, v) :: rest =>
    let known := vars.foldl (fun fields p => fields.set p.1 p.2) around
    let v := match v with
      | some s => Value.text (String.ofList (expand known s.length s))
      | none => .null
    assign around (vars.set (String.ofList name) v) rest

def plainLines : List Char → List Char
  | [] => []
  | '\r' :: '\n' :: rest => '\n' :: plainLines rest
  | '\r' :: rest => '\n' :: plainLines rest
  | c :: rest => c :: plainLines rest

def read (around : Fields) (s : String) : Fields :=
  let cs := plainLines s.toList
  assign around [] (bindings (cs.length + 1) cs)

end ChatWindow.EnvFile
