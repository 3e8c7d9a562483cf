import ChatWindow.Toml.Scalar
import ChatWindow.Toml.Table

/-!
# TOML documents

A document is a sequence of lines, each with a key and its value or with the header of the table
that the following keys belong to. Lists may go over several lines, tables in braces may not.
-/

namespace ChatWindow.Toml

def skipComment? (cs : List Char) : Option (List Char) :=
  match cs with
  | '#' :: rest =>
    if (rest.takeWhile (· != '\n')).any isIllegal then none else some (rest.dropWhile (· != '\n'))
  | _ => some cs

def skipAll? : Nat → List Char → Option (List Char)
  | 0, cs => some cs
  | fuel + 1, cs =>
    match skipLines cs with
    | '#' :: rest => do skipAll? fuel (← skipComment? ('#' :: rest))
    | rest => some rest

mutual

def value? : Nat → List Char → Option (Value × List Char)
  | 0, _ => none
  | fuel + 1, cs =>
    match cs with
    | '[' :: rest => do items? fuel [] (← skipAll? rest.length rest)
    | '\x7b' :: rest =>
      match skip rest with
      | '\x7d' :: rest => some (.record [], rest)
      | rest => inline? fuel [] rest
    | _ =>
      match text? cs with
      | some (s, rest) => some (.text (String.ofList s), rest)
      | none => if cs.head? = some '"' ∨ cs.head? = some '\'' then none else scalar? cs

def items? : Nat → List Value → List Char → Option (Value × List Char)
  | 0, _, _ => none
  | fuel + 1, read, cs =>
    match cs with
    | ']' :: rest => some (.list read.reverse, rest)
    | _ => do
      let (v, rest) ← value? fuel cs
      match ← skipAll? rest.length rest with
      | ']' :: rest => return (.list (v :: read).reverse, rest)
      | ',' :: rest => items? fuel (v :: read) (← skipAll? rest.length rest)
      | _ => none

def pair? : Nat → List Char → Option ((List String × Value) × List Char)
  | 0, _ => none
  | fuel + 1, cs => do
    let (key, rest) ← key? cs
    let (v, rest) ← value? fuel (skip (← mark? '=' rest))
    return ((key, v), rest)

def inline? : Nat → Entries → List Char → Option (Value × List Char)
  | 0, _, _ => none
  | fuel + 1, entries, cs => do
    let ((key, v), rest) ← pair? fuel cs
    let entries ← entries.set? 0 (key.getLastD "") v key.dropLast
    match skip rest with
    | '\x7d' :: rest => return (.record (toFields entries), rest)
    | ',' :: rest => inline? fuel entries (skip rest)
    | _ => none

end

structure Draft where
  entries : Entries := []
  header : List String := []
  part : Nat := 0

namespace Draft

def pair? (d : Draft) (key : List String) (v : Value) : Option Draft := do
  let set := Entries.set? d.part (key.getLastD "") v key.dropLast
  return { d with entries := ← d.entries.at? set d.header }

def start? (d : Draft) (key : List String) (f : String → Entries → Option Entries) :
    Option Draft := do
  return {
    entries := ← d.entries.at? (f (key.getLastD "")) key.dropLast
    header := key
    part := d.part + 1 }

def statement? (d : Draft) (cs : List Char) : Option (Draft × List Char) :=
  match cs with
  | '[' :: '[' :: rest => do
    let (key, rest) ← key? (skip rest)
    let d ← d.start? key Entries.openItem
    return (d, ← mark? ']' (← mark? ']' rest))
  | '[' :: rest => do
    let (key, rest) ← key? (skip rest)
    let d ← d.start? key Entries.openTable
    return (d, ← mark? ']' rest)
  | '#' :: _ => some (d, cs)
  | _ => do
    let ((key, v), rest) ← Toml.pair? (2 * cs.length + 2) cs
    return (← d.pair? key v, rest)

def read? : Nat → Draft → List Char → Option Draft
  | 0, d, _ => some d
  | fuel + 1, d, cs =>
    match skip cs with
    | [] => some d
    | '\n' :: rest => read? fuel d rest
    | cs => do
      let (d, rest) ← d.statement? cs
      match ← skipComment? (skip rest) with
      | [] => return d
      | '\n' :: rest => read? fuel d rest
      | _ => none

end Draft

def unixLines : List Char → List Char
  | [] => []
  | '\r' :: '\n' :: rest => '\n' :: unixLines rest
  | c :: rest => c :: unixLines rest

def read? (s : String) : Option Fields :=
  let cs := unixLines s.toList
  (Draft.read? (cs.length + 1) {} cs).map fun d => toFields d.entries

end ChatWindow.Toml
