import ChatWindow.Report
import ChatWindow.Text.Tagged
import ChatWindow.Text.Wrap

/-!
# Reports as tables

The counts before and after in a table with a frame, its title above it, and a line below that
says how full the window is. A table that is too wide is narrowed: the widest columns give way
first, until they are as wide as the next widest ones, and a cell that no longer fits ends in an
ellipsis.
-/

namespace ChatWindow

def Value.separated : Value → Except Failure String
  | .bool b => .ok (Fixed.grouped b.toInt)
  | .int n => .ok (Fixed.grouped n)
  | .real x =>
    let (sign, body) := (Shortest.text x).toList.span (· == '-')
    let (digits, rest) := body.span Char.isDigit
    .ok (String.ofList (sign ++ Fixed.groupedBy 3 ',' digits ++ rest))
  | .text _ => .error (.badLayout (.separatorWith ',' 's'))
  | v => .error (.badKind (.notFormattable v.kind))

structure Column where
  header : String
  cells : List String
  toRight : Bool := true

namespace Column

def natural (c : Column) : Nat :=
  ((c.header :: c.cells).map fun s => Text.width s.toList).foldl max 0 + 2

def cell (toRight : Bool) (columns : Nat) (s : String) : List Char :=
  if columns ≤ 2 then List.replicate columns ' '
  else
    let body := Text.abridge (columns - 2) s.toList
    let missing := List.replicate (columns - 2 - Text.width body) ' '
    ' ' :: (if toRight then missing ++ body else body ++ missing) ++ [' ']

end Column

namespace Table

def total (widths : List Nat) : Nat := widths.foldl (· + ·) 0

/-- Divides an excess among the columns that a share is asked of, none giving more than `most`; a
half goes to the even neighbour. -/
def giveWay (most : Nat) : Nat → Nat → List (Nat × Bool) → List Nat
  | _, _, [] => []
  | excess, sharers, (w, true) :: rest =>
    let share := min most (roundDiv excess sharers)
    (w - share) :: giveWay most (excess - share) (sharers - 1) rest
  | excess, sharers, (w, false) :: rest => w :: giveWay most excess sharers rest

def narrowed (limit : Nat) (widths : List Nat) : List Nat :=
  let widest := widths.foldl max 0
  let next := (widths.filter (· != widest)).foldl max 0
  let excess := total widths - limit
  giveWay (min excess (widest - next)) excess (widths.count widest)
    (widths.map fun w => (w, w == widest))

def narrow (limit : Nat) : Nat → List Nat → List Nat
  | 0, widths => widths
  | fuel + 1, widths =>
    if total widths ≤ limit then widths else narrow limit fuel (narrowed limit widths)

def widths (columns : Nat) (cs : List Column) : List Nat :=
  let limit := columns - (cs.length + 1)
  let natural := cs.map fun c => if limit = 0 then 1 else min c.natural limit
  narrow limit (total natural) natural

def rule (left fill joint right : Char) (widths : List Nat) : List Char :=
  left :: [joint].intercalate (widths.map (List.replicate · fill)) ++ [right]

def row (edge : Char) (cells : List (List Char)) : List Char :=
  edge :: [edge].intercalate cells ++ [edge]

def lines (cs : List Column) (widths : List Nat) : List (List Char) :=
  let sized := cs.zip widths
  let body := fun i => row '│' (sized.map fun (c, w) =>
    Column.cell c.toRight w (c.cells.getD i ""))
  let count := (cs.map fun c => c.cells.length).foldl max 0
  [rule '┏' '━' '┳' '┓' widths,
    row '┃' (sized.map fun (c, w) => Column.cell c.toRight w c.header),
    rule '┡' '━' '╇' '┩' widths] ++
  (List.range count).map body ++ [rule '└' '─' '┴' '┘' widths]

end Table

namespace Sheet

def title (s : Sheet) : String :=
  if s.requestId.truthy then "Selection Report (" ++ s.requestId.display ++ ")"
  else "Selection Report"

def columns (s : Sheet) : Except Failure (List Column) := do
  let givenCount ← s.givenCount.separated
  let finalCount ← s.finalCount.separated
  let messagesRemoved ← (← s.messagesRemoved).separated
  let givenTokens ← s.givenTokens.separated
  let finalTokens ← s.finalTokens.separated
  let tokensRemoved ← (← s.tokensRemoved).separated
  return [{ header := "", cells := ["Messages", "Tokens"], toRight := false },
    { header := "Original", cells := [givenCount, givenTokens] },
    { header := "Final", cells := [finalCount, finalTokens] },
    { header := "Removed", cells := [messagesRemoved, tokensRemoved] }]

def summary (s : Sheet) : Except Failure String := do
  let window ← s.windowSize.separated
  let used := percentage (← s.utilization)
  let text := "Window " ++ window ++ " tokens, " ++ used ++ " used; " ++ s.dropped.display ++
    " of " ++ s.intermediates.display ++ " intermediate messages dropped"
  return if s.exceeded.truthy then text ++ " (budget exceeded)" else text

/-- The title has the middle of the table; nothing goes beyond the last column, and where there is
none, nothing is shown. -/
def lines (columns : Nat) (s : Sheet) : Except Failure (List String) := do
  let cs ← s.columns
  let widths := Table.widths columns cs
  let full := Table.total widths + widths.length + 1
  let title ← if columns = 0 then .ok [] else (Tagged.plain s.title.toList).mapError .badMarkup
  let summary ← s.summary
  if columns = 0 then return []
  let titleLines := (Text.wrap full title).map (Text.center full)
  let all := titleLines ++ Table.lines cs widths ++ Text.wrap columns summary.toList
  return all.map fun line => String.ofList (Text.crop columns line)

end Sheet

end ChatWindow
