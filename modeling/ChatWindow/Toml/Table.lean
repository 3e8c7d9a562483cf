import ChatWindow.Value

/-!
# TOML tables under construction

A table comes into being by its own header, by a longer header, or by a key with dots. No table
has two headers; one that a key with dots made takes no more keys once the section of that key is
over, and a value in brackets or braces takes none at all. A header in double brackets adds a
table to a list.
-/

namespace ChatWindow.Toml

/-- How a table came into being: a dotted key is known by the number of its section. -/
inductive Origin where
  | longerHeader
  | header
  | dottedKey (part : Nat)
  deriving DecidableEq

inductive Entry where
  | value (v : Value)
  | table (origin : Origin) (entries : List (String × Entry))
  | tables (done : List (List (String × Entry))) (last : List (String × Entry))

abbrev Entries := List (String × Entry)

namespace Entries

def find? : Entries → String → Option Entry
  | [], _ => none
  | (k, e) :: rest, key => if k = key then some e else find? rest key

def put : Entries → String → Entry → Entries
  | [], key, e => [(key, e)]
  | (k, old) :: rest, key, e => if k = key then (k, e) :: rest else (k, old) :: put rest key e

def at? (f : Entries → Option Entries) : List String → Entries → Option Entries
  | [], entries => f entries
  | name :: path, entries =>
    match find? entries name with
    | none => do return put entries name (.table .longerHeader (← at? f path []))
    | some (.table origin inner) => do return put entries name (.table origin (← at? f path inner))
    | some (.tables done last) => do return put entries name (.tables done (← at? f path last))
    | some (.value _) => none

def set? (part : Nat) (key : String) (v : Value) : List String → Entries → Option Entries
  | [], entries => if (find? entries key).isSome then none else some (put entries key (.value v))
  | name :: path, entries =>
    match find? entries name with
    | none => do return put entries name (.table (.dottedKey part) (← set? part key v path []))
    | some (.table origin inner) =>
      if origin = .longerHeader ∨ origin = .dottedKey part then do
        return put entries name (.table (.dottedKey part) (← set? part key v path inner))
      else none
    | some _ => none

def openTable (name : String) (entries : Entries) : Option Entries :=
  match find? entries name with
  | none => some (put entries name (.table .header []))
  | some (.table .longerHeader inner) => some (put entries name (.table .header inner))
  | some _ => none

def openItem (name : String) (entries : Entries) : Option Entries :=
  match find? entries name with
  | none => some (put entries name (.tables [] []))
  | some (.tables done last) => some (put entries name (.tables (done ++ [last]) []))
  | some _ => none

end Entries

mutual

def Entry.toValue : Entry → Value
  | .value v => v
  | .table _ entries => .record (toFields entries)
  | .tables done last => .list (toList done ++ [.record (toFields last)])

def toFields : List (String × Entry) → List (Text × Value)
  | [] => []
  | (k, e) :: rest => (k, e.toValue) :: toFields rest

def toList : List (List (String × Entry)) → List Value
  | [] => []
  | entries :: rest => .record (toFields entries) :: toList rest

end

end ChatWindow.Toml
