import ChatWindow.Text.Kinds
import ChatWindow.Text.Cells

/-!
# Breaking lines

Words are put on a line as long as they fit; one that is too wide for any line is cut where the
line is full. A word keeps the blanks that follow it, and a line that they make too long loses as
many of them as it is too long by. Breaking alone loses no character.
-/

namespace ChatWindow.Text

def prependToWords (c : Char) : List (List Char) → List (List Char)
  | (d :: word) :: rest =>
    if isBlank c && !isBlank d then [c] :: (d :: word) :: rest else (c :: d :: word) :: rest
  | [] :: rest => [c] :: rest
  | [] => [[c]]

def spacedWords (text : List Char) : List (List Char) :=
  match text.foldr prependToWords [] with
  | first :: second :: rest =>
    if first.all isBlank then (first ++ second) :: rest else first :: second :: rest
  | words => words

def chop (columns : Nat) (text : List Char) : List (List Char) :=
  let rec go (line : List Char) (used : Nat) : List Char → List (List Char)
    | [] => [line]
    | c :: rest =>
      if columns < used + cells c then line :: go [c] (cells c) rest
      else go (line ++ [c]) (used + cells c) rest
  go [] 0 text

def fillLines (columns : Nat) (line : List Char) (used : Nat) :
    List (List Char) → List (List Char)
  | [] => [line]
  | word :: rest =>
    let least := width (trimRight word)
    if used + least ≤ columns then fillLines columns (line ++ word) (used + width word) rest
    else if least ≤ columns then line :: fillLines columns word (width word) rest
    else
      let done := if line.isEmpty then [] else [line]
      let pieces := chop columns word
      let pieces := if line.isEmpty then pieces.dropWhile List.isEmpty else pieces
      match pieces.reverse with
      | [] => done ++ fillLines columns word (width word) rest
      | last :: front => done ++ front.reverse ++ fillLines columns last (width last) rest

def breakLine (columns : Nat) (text : List Char) : List (List Char) :=
  fillLines columns [] 0 (spacedWords text)

def trailingBlanks (text : List Char) : Nat := (text.reverse.takeWhile isBlank).length

def dropExcess (columns : Nat) (line : List Char) : List Char :=
  line.take (line.length - min (trailingBlanks line) (line.length - columns))

def crop (columns : Nat) (line : List Char) : List Char :=
  if columns < width line then toCells columns line else line

def expandTabs (text : List Char) : List Char :=
  let rec go (used : Nat) : List Char → List Char
    | [] => []
    | c :: rest =>
      if c = '\t' then List.replicate (8 - used % 8) ' ' ++ go (used + (8 - used % 8)) rest
      else c :: go (used + cells c) rest
  go 0 text

def isControl (c : Char) : Bool := ['\x07', '\x08', '\x0b', '\x0c', '\x0d'].contains c

def lines (text : List Char) : List (List Char) :=
  text.foldr (fun c rest =>
    match c, rest with
    | '\n', rest => [] :: rest
    | c, line :: rest => (c :: line) :: rest
    | c, [] => [[c]]) [[]]

def wrap (columns : Nat) (text : List Char) : List (List Char) :=
  (lines (text.filter fun c => !isControl c)).flatMap fun line =>
    (breakLine columns (expandTabs line)).map (dropExcess columns)

def center (columns : Nat) (line : List Char) : List Char :=
  let line := crop columns (trimRight line)
  toCells columns (List.replicate ((columns - width line) / 2) ' ' ++ line)

def abridge (columns : Nat) (text : List Char) : List Char :=
  if columns < width text then toCells (columns - 1) text ++ ['…'] else text

end ChatWindow.Text
