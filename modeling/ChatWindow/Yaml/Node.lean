import ChatWindow.Yaml.Token

/-!
# YAML nodes

The tree that the tokens of a document describe: texts, lists, and mappings whose keys may be any
nodes. A name that is given to a node stands for it from there on, and no name is given twice.
-/

namespace ChatWindow.Yaml

inductive Node where
  | text (tag : Option String) (plain : Bool) (s : String)
  | list (tag : Option String) (items : List Node)
  | map (tag : Option String) (pairs : List (Node × Node))

def Node.empty : Node := .text none true ""

/-- What is left to read, the nodes with a name, and what the handles of tags stand for. A node
that is still being read has no value yet. -/
structure Source where
  tokens : List Token
  named : List (String × Option Node) := []
  handles : List (String × String) := []

abbrev Read := StateT Source Option

namespace Read

def peek : Read (Option Token) := do return (← get).tokens.head?

def skip : Read Unit := modify fun s => { s with tokens := s.tokens.drop 1 }

def passes (t : Token) : Read Bool := do
  if (← peek) == some t then
    skip
    return true
  return false

def before (ts : List Token) : Read Bool := do
  match ← peek with
  | some t => return ts.contains t
  | none => return true

def resolve (t : Tag) : Read String := do
  match t with
  | .full name => return name
  | .short handle suffix =>
    match (← get).handles.find? (·.1 == handle) with
    | some p => return p.2 ++ suffix
    | none => failure

def anchor? : Read (Option String) := do
  match ← peek with
  | some (.anchor name) =>
    skip
    return some name
  | _ => return none

def tag? : Read (Option String) := do
  match ← peek with
  | some (.tag t) =>
    skip
    return some (← resolve t)
  | _ => return none

def properties : Read (Option String × Option String) := do
  let first ← anchor?
  let tag ← tag?
  let anchor ← if first.isSome || tag.isNone then pure first else anchor?
  return (anchor, tag)

def give (anchor : Option String) (n : Option Node) : Read Unit :=
  match anchor with
  | none => return
  | some name => modify fun s => { s with named := (name, n) :: s.named }

def begin (anchor : Option String) : Read Unit := do
  match anchor with
  | none => return
  | some name =>
    if (← get).named.any (·.1 == name) then failure
    give anchor none

def named (name : String) : Read Node := do
  match (← get).named.find? (·.1 == name) with
  | some (_, some n) => return n
  | _ => failure

end Read

open Read

/-- Where a node stands: in a block, in one where a list need not stand further in, or in
brackets. -/
inductive Context where
  | block | value | flow
  deriving DecidableEq

mutual

def node : Nat → Context → Read Node
  | 0, _ => failure
  | fuel + 1, context => do
    match ← peek with
    | some (.alias name) =>
      skip
      named name
    | _ =>
      let (anchor, tag) ← properties
      begin anchor
      let n ← content fuel context tag (anchor.isSome || tag.isSome)
      give anchor (some n)
      return n

def content : Nat → Context → Option String → Bool → Read Node
  | 0, _, _, _ => failure
  | fuel + 1, context, tag, mayBeEmpty => do
    match ← peek, context with
    | some .item, .value => return .list tag (← looseItems fuel)
    | some (.text s plain), _ =>
      skip
      return .text tag plain s
    | some .openList, _ =>
      skip
      return .list tag (← flowItems fuel true)
    | some .openMap, _ =>
      skip
      return .map tag (← flowPairs fuel true)
    | some .blockList, .block | some .blockList, .value =>
      skip
      return .list tag (← blockItems fuel)
    | some .blockMap, .block | some .blockMap, .value =>
      skip
      return .map tag (← blockPairs fuel)
    | _, _ => if mayBeEmpty then return .text tag true "" else failure

def nodeBefore : Nat → Context → List Token → Read Node
  | 0, _, _ => failure
  | fuel + 1, context, ts => do
    if ← before ts then return Node.empty
    node fuel context

def blockItems : Nat → Read (List Node)
  | 0 => failure
  | fuel + 1 => do
    if ← passes .item then
      let n ← nodeBefore fuel .block [.item, .blockEnd]
      return n :: (← blockItems fuel)
    if ← passes .blockEnd then return []
    failure

/-- The items of a list that stands no further in than the mapping around it. -/
def looseItems : Nat → Read (List Node)
  | 0 => failure
  | fuel + 1 => do
    if ← passes .item then
      let n ← nodeBefore fuel .block [.item, .key, .value, .blockEnd]
      return n :: (← looseItems fuel)
    return []

def blockPairs : Nat → Read (List (Node × Node))
  | 0 => failure
  | fuel + 1 => do
    if ← passes .key then
      let k ← nodeBefore fuel .value [.key, .value, .blockEnd]
      let v ← valueBefore fuel .value [.key, .value, .blockEnd]
      return (k, v) :: (← blockPairs fuel)
    if ← passes .blockEnd then return []
    failure

def valueBefore : Nat → Context → List Token → Read Node
  | 0, _, _ => failure
  | fuel + 1, context, ts => do
    if ← passes .value then nodeBefore fuel context ts else return Node.empty

def flowItems : Nat → Bool → Read (List Node)
  | 0, _ => failure
  | fuel + 1, first => do
    if ← passes .closeList then return []
    if !first then
      if !(← passes .comma) then failure
    if ← passes .key then
      let k ← nodeBefore fuel .flow [.value, .comma, .closeList]
      let v ← valueBefore fuel .flow [.comma, .closeList]
      return .map none [(k, v)] :: (← flowItems fuel false)
    if ← passes .closeList then return []
    let n ← node fuel .flow
    return n :: (← flowItems fuel false)

def flowPairs : Nat → Bool → Read (List (Node × Node))
  | 0, _ => failure
  | fuel + 1, first => do
    if ← passes .closeMap then return []
    if !first then
      if !(← passes .comma) then failure
    if ← passes .key then
      let k ← nodeBefore fuel .flow [.value, .comma, .closeMap]
      let v ← valueBefore fuel .flow [.comma, .closeMap]
      return (k, v) :: (← flowPairs fuel false)
    if ← passes .closeMap then return []
    let k ← node fuel .flow
    return (k, Node.empty) :: (← flowPairs fuel false)

end

def standardTags : String := "tag:yaml.org,2002:"

def defaultHandles : List (String × String) := [("!", "!"), ("!!", standardTags)]

def directives : Nat → Bool → List (String × String) → Read (List (String × String))
  | 0, _, _ => failure
  | fuel + 1, versioned, handles => do
    match ← peek with
    | some .version =>
      if versioned then failure
      skip
      directives fuel true handles
    | some (.handle name target) =>
      if handles.any (·.1 == name) then failure
      skip
      directives fuel versioned (handles ++ [(name, target)])
    | some .otherDirective =>
      skip
      directives fuel versioned handles
    | _ => return handles

def skipEnds : Nat → Read Unit
  | 0 => return
  | fuel + 1 => do
    if ← passes .documentEnd then skipEnds fuel

def explicitDocument (fuel : Nat) : Read Node := do
  let handles ← directives fuel false []
  if !(← passes .documentStart) then failure
  modify fun s => { s with handles := handles ++ defaultHandles }
  match ← peek with
  | some .version | some (.handle ..) | some .otherDirective | some .documentStart
  | some .documentEnd | none => return Node.empty
  | _ => node fuel .block

def document (fuel : Nat) : Read (Option Node) := do
  let n ← match ← peek with
    | none => pure none
    | some .documentStart | some .version | some (.handle ..) | some .otherDirective =>
      some <$> explicitDocument fuel
    | _ =>
      modify fun s => { s with handles := defaultHandles }
      some <$> node fuel .block
  skipEnds fuel
  if (← peek).isSome then failure
  return n

def node? (cs : List Char) : Option (Option Node) := do
  let tokens ← tokens? cs
  let (n, _) ← (document (4 * tokens.size + 4)).run { tokens := tokens.toList }
  return n

end ChatWindow.Yaml
