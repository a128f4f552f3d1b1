import CodeSurvey.Yaml.Layout

namespace CodeSurvey.Yaml

inductive Tag where
  | null
  | bool
  | int
  | real
  | text
  | list
  | table
  | merge
  | value
  | timestamp
  | unknown (name : String)
  deriving DecidableEq, Repr

namespace Tag

def standardSpace : String := "tag:yaml.org,2002:"

def standard : List (String × Tag) :=
  [("null", null), ("bool", bool), ("int", int), ("float", real), ("str", text), ("seq", list),
   ("map", table), ("merge", merge), ("value", value), ("timestamp", timestamp)]

def ofName (name : String) : Tag :=
  match standard.find? fun entry => name == standardSpace ++ entry.1 with
  | some entry => entry.2
  | none => unknown name

end Tag

inductive Node where
  | text (tag : Option Tag) (content : String)
  | list (tag : Tag) (items : List Node)
  | table (tag : Tag) (entries : List (Node × Node))
  deriving Repr

namespace Node

def empty : Node := text none ""

structure Progress where
  tokens : List Token
  anchors : List (String × Option Node) := []
  handles : List (String × String) := []

abbrev Build := StateT Progress (Except Fault)

def failed : Build α := throw .settingsText

def next : Build (Option Token) := return (← get).tokens.head?

def skip : Build Unit := modify fun p => { p with tokens := p.tokens.tail }

def isNext (kinds : List Token) : Build Bool := do
  return (← next).any kinds.contains

def skipIf (t : Token) : Build Bool := do
  if ← isNext [t] then
    skip
    return true
  else return false

def need (t : Token) : Build Unit := do
  if !(← skipIf t) then failed

def collect (part : Build (Option α)) : List Token → Build (List α)
  | [] => failed
  | _ :: limit => do
      match ← part with
      | some a => return a :: (← collect part limit)
      | none => return []

inductive Spot where
  | flow
  | block
  | entry
  deriving DecidableEq

abbrev Inner := Spot → Build Node

def nodeUnless (ends : List Token) (inner : Inner) (spot : Spot) : Build Node := do
  if ← isNext ends then return empty else inner spot

def valueUnless (ends : List Token) (inner : Inner) (spot : Spot) : Build Node := do
  if ← skipIf .value then nodeUnless ends inner spot else return empty

def blockItem (inner : Inner) : Build (Option Node) := do
  if ← skipIf .item then return some (← nodeUnless [.item, .blockEnd] inner .block)
  else
    need .blockEnd
    return none

def looseItem (inner : Inner) : Build (Option Node) := do
  if ← skipIf .item then return some (← nodeUnless [.item, .key, .value, .blockEnd] inner .block)
  else return none

def blockEntry (inner : Inner) : Build (Option (Node × Node)) := do
  if ← skipIf .key then
    let k ← nodeUnless [.key, .value, .blockEnd] inner .entry
    let v ← valueUnless [.key, .value, .blockEnd] inner .entry
    return some (k, v)
  else
    need .blockEnd
    return none

def flowParts (closing : Token) (part : Build α) : List Token → Bool → Build (List α)
  | [], _ => failed
  | _ :: limit, first => do
      if ← skipIf closing then return []
      if !first then need .comma
      if ← skipIf closing then return []
      let a ← part
      return a :: (← flowParts closing part limit false)

def flowItem (inner : Inner) : Build Node := do
  if ← skipIf .key then
    let k ← nodeUnless [.value, .comma, .flowListEnd] inner .flow
    let v ← valueUnless [.comma, .flowListEnd] inner .flow
    return table .table [(k, v)]
  else inner .flow

def flowEntry (inner : Inner) : Build (Node × Node) := do
  if ← skipIf .key then
    let k ← nodeUnless [.value, .comma, .flowTableEnd] inner .flow
    let v ← valueUnless [.comma, .flowTableEnd] inner .flow
    return (k, v)
  else return (← inner .flow, empty)

def anchor : Build (Option String) := do
  match ← next with
  | some (.anchor name) => do
      skip
      return some name
  | _ => return none

def tagName : Build (Option String) := do
  match ← next with
  | some (.tag handle suffix) => do
      skip
      match handle with
      | none => return some suffix
      | some h =>
          match (← get).handles.lookup h with
          | some space => return some (space ++ suffix)
          | none => failed
  | _ => return none

def properties : Build (Option String × Option String) := do
  match ← anchor with
  | some a => return (some a, ← tagName)
  | none => do
      let t ← tagName
      if t.isNone then return (none, none) else return (← anchor, t)

def isOpen (tag : Option String) : Bool := tag.all (· == "!")

def knownTag (tag : Option String) (default : Tag) : Tag :=
  if isOpen tag then default else (tag.map Tag.ofName).getD default

def ofText (tag : Option String) (content : String) (plain : Bool) : Node :=
  match tag with
  | none => text (if plain then none else some .text) content
  | some name => text (if name == "!" then none else some (Tag.ofName name)) content

def aliased (name : String) : Build Node := do
  match (← get).anchors.lookup name with
  | some (some n) => return n
  | _ => failed

def openAnchor (name : Option String) : Build Unit := do
  match name with
  | none => return
  | some a =>
      if ((← get).anchors.lookup a).isSome then failed
      modify fun p => { p with anchors := (a, none) :: p.anchors }

def closeAnchor (name : Option String) (n : Node) : Build Unit := do
  match name with
  | none => return
  | some a => modify fun p => { p with anchors := (a, some n) :: p.anchors }

def content (inner : Inner) (spot : Spot) (anchored : Bool) (tag : Option String) : Build Node := do
  let limit := (← get).tokens
  match limit.head?, spot with
  | some .item, .entry =>
      return list (knownTag tag .list) (← collect (looseItem inner) (.item :: limit))
  | some (.text s plain), _ => do
      skip
      return ofText tag s plain
  | some .flowList, _ => do
      skip
      return list (knownTag tag .list) (← flowParts .flowListEnd (flowItem inner) limit true)
  | some .flowTable, _ => do
      skip
      return table (knownTag tag .table) (← flowParts .flowTableEnd (flowEntry inner) limit true)
  | some .blockList, .block | some .blockList, .entry => do
      skip
      return list (knownTag tag .list) (← collect (blockItem inner) limit)
  | some .blockTable, .block | some .blockTable, .entry => do
      skip
      return table (knownTag tag .table) (← collect (blockEntry inner) limit)
  | _, _ => if anchored || tag.isSome then return ofText tag "" true else failed

def nodeWith (inner : Inner) (spot : Spot) : Build Node := do
  match ← next with
  | some (.alias name) => do
      skip
      aliased name
  | _ => do
      let (name, tag) ← properties
      openAnchor name
      let n ← content inner spot name.isSome tag
      closeAnchor name n
      return n

def nodeAt : List Token → Inner
  | [] => fun _ => failed
  | _ :: limit => fun spot => nodeWith (nodeAt limit) spot

def node (spot : Spot) : Build Node := do
  nodeAt (← get).tokens spot

def defaultHandles : List (String × String) := [("!", "!"), ("!!", Tag.standardSpace)]

structure Header where
  versioned : Bool := false
  handles : List (String × String) := []

def directive (h : Header) : Directive → Build Header
  | .version major =>
      if h.versioned || major != 1 then failed else return { h with versioned := true }
  | .tags handle space =>
      if (h.handles.lookup handle).isSome then failed
      else return { h with handles := (handle, space) :: h.handles }
  | .other => return h

def directives : List Token → Header → Build Header
  | [], h => return h
  | _ :: limit, h => do
      match ← next with
      | some (.directive d) => do
          skip
          directives limit (← directive h d)
      | _ => return h

def skipEnds : Build Unit :=
  modify fun p => { p with tokens := p.tokens.dropWhile (· == .documentEnd) }

def startsHeader : Build Bool := do
  match ← next with
  | some (.directive _) | some .documentStart | none => return true
  | _ => return false

def document : Build (Option Node) := do
  let read : Build Node := do
    if ← startsHeader then
      let h ← directives (← get).tokens {}
      need .documentStart
      modify fun p => { p with handles := h.handles ++ defaultHandles }
      if (← startsHeader) || (← isNext [.documentEnd]) then return empty else node .block
    else
      modify fun p => { p with handles := defaultHandles }
      node .block
  if (← next).isNone then return none
  let n ← read
  skipEnds
  if (← next).isSome then failed else return some n

def ofTokens (tokens : List Token) : Except Fault (Option Node) :=
  document.run' { tokens }

end Node

end CodeSurvey.Yaml
