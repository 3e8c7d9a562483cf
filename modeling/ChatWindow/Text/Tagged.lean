import ChatWindow.Fault
import ChatWindow.Text.Kinds
import ChatWindow.Text.Search

/-!
# Marked text

Text with tags in square brackets. An opening tag names a style and a closing tag, which starts
with a slash, the style that it ends; a closing tag without a name ends the last one. An odd
number of backslashes in front of a bracket takes its meaning away. Only the text between the tags
is kept here.
-/

namespace ChatWindow.Tagged

inductive Piece where
  | text (s : List Char)
  | tag (position : Nat) (body : List Char)

def opens (c : Char) : Bool := c.isLower || c == '#' || c == '/' || c == '@'

def tag? : List Char → Option (List Char × List Char)
  | [] => none
  | c :: rest => if opens c then Text.cut? [']'] (c :: rest) else none

def slashes (s : List Char) : Nat := (s.reverse.takeWhile (· == '\\')).length

def unescaped (s : List Char) : List Char :=
  (if slashes s = 0 then s else s.dropLast) ++ ['[']

/-- The pieces of a text that is cut at its opening brackets: `before` stands in front of the next
of them and starts at `position`. -/
def pieces (position : Nat) (before : List Char) : List (List Char) → List Piece
  | [] => [.text before]
  | part :: parts =>
    let bracket := position + before.length
    match tag? part with
    | none => .text (unescaped before) :: pieces (bracket + 1) part parts
    | some (body, rest) =>
      let n := slashes before
      let kept := before.take (before.length - n) ++ List.replicate (n / 2) '\\'
      let next := bracket + body.length + 2
      if n % 2 = 0 then .text kept :: .tag bracket body :: pieces next rest parts
      else .text (kept ++ '[' :: body ++ [']']) :: pieces next rest parts

def splitAt (mark : Char) : List Char → List (List Char)
  | [] => [[]]
  | c :: rest =>
    match splitAt mark rest with
    | [] => [[c]]
    | part :: parts => if c = mark then [] :: part :: parts else (c :: part) :: parts

def ofText (s : List Char) : List Piece :=
  match splitAt '[' s with
  | [] => []
  | before :: parts => pieces 0 before parts

def effects : List (String × List String) := [
  ("bold", ["b"]), ("dim", ["d"]), ("italic", ["i"]), ("underline", ["u"]), ("blink", []),
  ("blink2", []), ("reverse", ["r"]), ("conceal", ["c"]), ("strike", ["s"]),
  ("underline2", ["uu"]), ("frame", []), ("encircle", []), ("overline", ["o"])]

def effect? (word : String) : Option String :=
  (effects.find? fun e => e.1 == word || e.2.contains word).map (·.1)

def baseColors : List String :=
  ["black", "red", "green", "yellow", "blue", "magenta", "cyan", "white"]

def isColor (word : String) : Bool :=
  word == "default" || baseColors.contains word ||
    baseColors.any (fun c => "bright_" ++ c == word) ||
    (word.length == 7 && word.startsWith "#" &&
      (word.toList.drop 1).all fun c => c.isDigit || ('a' ≤ c && c ≤ 'f'))

structure Style where
  on : List String := []
  off : List String := []
  color : Option String := none
  ground : Option String := none
  link : Option String := none

namespace Style

def enable (s : Style) (e : String) : Style :=
  { s with on := e :: s.on, off := s.off.filter (· != e) }

def disable (s : Style) (e : String) : Style :=
  { s with off := e :: s.off, on := s.on.filter (· != e) }

def ofWords? (s : Style) : List String → Option Style
  | [] => some s
  | word :: rest =>
    match word.toLower, rest with
    | "on", color :: rest =>
      if isColor color.toLower then ofWords? { s with ground := some color.toLower } rest
      else none
    | "not", name :: rest =>
      match effect? name with
      | some e => ofWords? (s.disable e) rest
      | none => none
    | "link", target :: rest => ofWords? { s with link := some target } rest
    | word, rest =>
      match effect? word with
      | some e => ofWords? (s.enable e) rest
      | none => if isColor word then ofWords? { s with color := some word } rest else none

def words (s : Style) : List String :=
  effects.filterMap (fun e =>
    if s.on.contains e.1 then some e.1
    else if s.off.contains e.1 then some ("not " ++ e.1)
    else none) ++
  s.color.toList ++ (s.ground.map ("on " ++ ·)).toList ++ (s.link.map ("link " ++ ·)).toList

end Style

def normal (name : List Char) : String :=
  match Style.ofWords? {} ((Text.words Text.isBlank name).map String.ofList) with
  | some s => if s.words.isEmpty then "none" else " ".intercalate s.words
  | none => (String.ofList (Text.trim name)).toLower

def render (opened : List String) : List Piece → Except MarkupFault (List Char)
  | [] => .ok []
  | .text s :: rest => (render opened rest).map (s ++ ·)
  | .tag position body :: rest =>
    match body.takeWhile (· != '=') with
    | '/' :: name =>
      if (Text.trim name).isEmpty then
        match opened with
        | [] => .error (.nothingOpen position)
        | _ :: opened => render opened rest
      else if opened.contains (normal name) then render (opened.erase (normal name)) rest
      else .error (.notOpened (String.ofList ('[' :: body ++ [']'])) position)
    | name => render (normal name :: opened) rest

def plain (s : List Char) : Except MarkupFault (List Char) := render [] (ofText s)

end ChatWindow.Tagged
