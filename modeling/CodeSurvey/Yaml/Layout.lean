import CodeSurvey.Yaml.Token

namespace CodeSurvey.Yaml

structure Candidate where
  level : Nat
  position : Nat
  required : Bool
  index : Nat
  line : Nat
  column : Nat

def maxKeyLength : Nat := 1024

def Candidate.isStale (k : Candidate) (here : Cursor) : Bool :=
  k.line != here.line || maxKeyLength < here.index - k.index

structure Layout where
  cursor : Cursor
  level : Nat := 0
  indent : Int := -1
  indents : List Int := []
  mayStartKey : Bool := true
  candidates : List Candidate := []
  tokens : List Token := []
  count : Nat := 0

namespace Layout

abbrev Step := StateT Layout (Except Fault)

def scanned (p : Scan α) : Step α := fun s => do
  let (a, cursor) ← p s.cursor
  return (a, { s with cursor })

def refused : Step α := throw .settingsText

def push (t : Token) : Step Unit :=
  modify fun s => { s with tokens := t :: s.tokens, count := s.count + 1 }

def insertAt (position : Nat) (t : Token) : Step Unit :=
  modify fun s =>
    let later := s.count - position
    { s with tokens := s.tokens.take later ++ t :: s.tokens.drop later, count := s.count + 1 }

def allowKeys (may : Bool) : Step Unit := modify fun s => { s with mayStartKey := may }

def drop (gone : Candidate → Bool) : Step Unit := do
  let s ← get
  let (old, kept) := s.candidates.partition gone
  if old.any (·.required) then refused
  set { s with candidates := kept }

def dropStale : Step Unit := do
  let here := (← get).cursor
  drop (·.isStale here)

def dropHere : Step Unit := do
  let level := (← get).level
  drop (·.level == level)

def keepHere : Step Unit := do
  let s ← get
  if s.mayStartKey then
    dropHere
    modify fun s => { s with candidates := {
      level := s.level
      position := s.count
      required := s.level = 0 && s.indent = s.cursor.column
      index := s.cursor.index
      line := s.cursor.line
      column := s.cursor.column } :: s.candidates }

def closeBlocks (column : Int) : List Int → Step Unit
  | [] => return
  | outer :: rest => do
      if column < (← get).indent then
        push .blockEnd
        modify fun s => { s with indent := outer, indents := rest }
        closeBlocks column rest

def closeTo (column : Int) : Step Unit := do
  let s ← get
  if s.level = 0 then closeBlocks column s.indents

def openAt (column position : Nat) (t : Token) : Step Unit := do
  let s ← get
  if s.level = 0 && s.indent < column then
    insertAt position t
    modify fun s => { s with indents := s.indent :: s.indents, indent := column }

def openHere (t : Token) : Step Unit := do
  let s ← get
  openAt s.cursor.column s.count t

def take (n : Nat) (t : Token) : Step Unit := do
  scanned (skip n)
  push t

def needKeys : Step Unit := do
  let s ← get
  if s.level = 0 && !s.mayStartKey then refused

def outermost : Step Unit := do
  closeTo (-1)
  dropHere
  allowKeys false

def flowStart (t : Token) : Step Unit := do
  keepHere
  modify fun s => { s with level := s.level + 1 }
  allowKeys true
  take 1 t

def flowEnd (t : Token) : Step Unit := do
  dropHere
  if (← get).level = 0 then refused
  modify fun s => { s with level := s.level - 1 }
  allowKeys false
  take 1 t

def comma : Step Unit := do
  allowKeys true
  dropHere
  take 1 .comma

def item : Step Unit := do
  needKeys
  openHere .blockList
  allowKeys true
  dropHere
  take 1 .item

def key : Step Unit := do
  needKeys
  openHere .blockTable
  allowKeys ((← get).level = 0)
  dropHere
  take 1 .key

def value : Step Unit := do
  let s ← get
  match s.candidates.find? (·.level == s.level) with
  | some k => do
      set { s with candidates := s.candidates.filter (·.level != s.level) }
      insertAt k.position .key
      openAt k.column k.position .blockTable
      allowKeys false
  | none => do
      needKeys
      openHere .blockTable
      allowKeys (s.level = 0)
      dropHere
  take 1 .value

def content (p : Scan Token) : Step Unit := do
  keepHere
  allowKeys false
  push (← scanned p)

def quotedText : Step Unit :=
  content do
    return .text (← Quoted.text) false

def blockText : Step Unit := do
  allowKeys true
  dropHere
  let outer := (← get).indent
  push (.text (← scanned (Unquoted.block outer)) false)

def plainText : Step Unit := do
  keepHere
  let s ← get
  let (text, overLines) ← scanned (Unquoted.plain (s.level != 0) (s.indent + 1))
  allowKeys overLines
  push (.text text true)

def indicators : List Char := "-?:,[]\x7b\x7d#&*!|>'\"%@\x60".toList

def startsPlain (inFlow : Bool) (c : Char) (rest : List Char) : Bool :=
  !(isGap c || indicators.contains c) ||
    (rest.head?.any (!isGap ·) && (c == '-' || (!inFlow && (c == '?' || c == ':'))))

def takeToken (c : Char) (rest : List Char) : Step Unit := do
  let s ← get
  let inFlow : Bool := s.level != 0
  let first : Bool := s.cursor.column = 0
  let alone := rest.head?.all isGap
  if c == '%' && first then
    outermost
    push (← scanned Token.directiveHere)
  else if first && isMark "---" (c :: rest) then
    outermost
    take 3 .documentStart
  else if first && isMark "..." (c :: rest) then
    outermost
    take 3 .documentEnd
  else if c == '[' then flowStart .flowList
  else if c == '{' then flowStart .flowTable
  else if c == ']' then flowEnd .flowListEnd
  else if c == '}' then flowEnd .flowTableEnd
  else if c == ',' then comma
  else if c == '-' && alone then item
  else if c == '?' && (inFlow || alone) then key
  else if c == ':' && (inFlow || alone) then value
  else if c == '*' then content do return .alias (← Token.anchorName)
  else if c == '&' then content do return .anchor (← Token.anchorName)
  else if c == '!' then content Token.tagHere
  else if (c == '|' || c == '>') && !inFlow then blockText
  else if c == '\'' || c == '"' then quotedText
  else if startsPlain inFlow c rest then plainText
  else refused

def toToken : List Char → Step Unit
  | [] => return
  | _ :: limit => do
      scanned do
        skipWhile (· == ' ')
        skipComment
      match ← scanned lineBreak with
      | some _ => do
          if (← get).level = 0 then allowKeys true
          toToken limit
      | none => return

def approach : Step Unit := do
  toToken (← get).cursor.rest
  dropStale
  closeTo (← get).cursor.column

def tokensFrom : List Char → Step Unit
  | [] => finish
  | _ :: limit => do
      approach
      match (← get).cursor.rest with
      | [] => finish
      | c :: rest => do
          takeToken c rest
          tokensFrom limit
where
  finish : Step Unit := do
    approach
    closeTo (-1)
    dropHere

def tokensOf (text : List Char) : Except Fault (List Token) := do
  let cursor : Cursor := { rest := text }
  let cursor := if text.head? == some '\ufeff' then cursor.next else cursor
  let (_, s) ← (tokensFrom text).run { cursor }
  return s.tokens.reverse

end Layout

end CodeSurvey.Yaml
