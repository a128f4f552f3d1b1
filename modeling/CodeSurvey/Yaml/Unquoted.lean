import CodeSurvey.Yaml.Cursor

namespace CodeSurvey.Yaml.Unquoted

def isFlowSign (c : Char) : Bool := ",[]\x7b\x7d".toList.contains c

def runLength (inFlow : Bool) : List Char → Nat
  | [] => 0
  | c :: rest =>
      if isGap c then 0
      else if c == ':' && rest.head?.all (fun d => isGap d || (inFlow && isFlowSign d)) then 0
      else if inFlow && (isFlowSign c || c == '?') then 0
      else runLength inFlow rest + 1

def breaksFrom : List Char → Scan (Option (List Char))
  | [] => return some []
  | _ :: limit => do
      if isDocumentMark (← ahead) then return none
      skipWhile (· == ' ')
      match ← lineBreak with
      | some c => return (← breaksFrom limit).map (c :: ·)
      | none => return some []

structure Gap where
  text : List Char
  overLines : Bool

def gap : Scan Gap := do
  let spaces ← takeWhile (· == ' ')
  match ← lineBreak with
  | none => return ⟨spaces, false⟩
  | some c =>
      match ← breaksFrom (← ahead) with
      | some more => return ⟨folded c more, true⟩
      | none => return ⟨[], true⟩

def plainFrom (inFlow : Bool) (indent : Int) : List Char → Scan (List Char × Bool)
  | [] => return ([], false)
  | _ :: limit => do
      let n := runLength inFlow (← ahead)
      let run := (← ahead).take n
      skip n
      let space ← gap
      let here ← get
      let ends := space.text.isEmpty || here.rest.head? == some '#'
        || (!inFlow && (here.column : Int) < indent) || runLength inFlow here.rest = 0
      if ends then return (run, space.overLines)
      else
        let (more, overLines) ← plainFrom inFlow indent limit
        return (run ++ space.text ++ more, overLines)

def plain (inFlow : Bool) (indent : Int) : Scan (String × Bool) := do
  let (text, overLines) ← plainFrom inFlow indent (← ahead)
  return (String.ofList text, overLines)

inductive Tail where
  | one
  | none
  | all
  deriving DecidableEq

def tailOf? (c : Char) : Option Tail :=
  if c == '+' then some .all else if c == '-' then some .none else none

def tail : Scan (Option Tail) := do
  match (← peek).bind tailOf? with
  | some t => do
      skip 1
      return some t
  | none => return none

def depth : Scan (Option Nat) := do
  match ← peek with
  | some c =>
      if c == '0' then refuse
      else if c.isDigit then
        skip 1
        return some (digitValue c)
      else return none
  | none => return none

def header : Scan (Tail × Option Nat) := do
  match ← tail with
  | some t => do
      let d ← depth
      needNext isSpaceOrBreak
      return (t, d)
  | none => do
      let d ← depth
      let t ← if d.isSome then tail else pure none
      needNext isSpaceOrBreak
      return (t.getD .one, d)

def leadingLines : List Char → Nat → Scan (List Char × Nat)
  | [], widest => return ([], widest)
  | _ :: limit, widest => do
      skipWhile (· == ' ')
      let widest := max widest (← get).column
      match ← lineBreak with
      | some c => do
          let (more, widest) ← leadingLines limit widest
          return (c :: more, widest)
      | none => return ([], widest)

def indentTo (column : Nat) : Scan Unit := do
  let here ← get
  skip ((here.rest.take (column - here.column)).takeWhile (· == ' ')).length

def emptyLines (indent : Nat) : List Char → Scan (List Char)
  | [] => return []
  | _ :: limit => do
      indentTo indent
      match ← lineBreak with
      | some c => return c :: (← emptyLines indent limit)
      | none => return []

def atLine (indent : Nat) : Scan Bool := do
  let here ← get
  return here.column = indent && !here.rest.isEmpty

def joint (fold : Bool) (ended : Option Char) (breaks : List Char) (indented nextIndented : Bool) :
    List Char :=
  if fold && ended == some '\n' && !indented && !nextIndented then
    if breaks.isEmpty then [' '] else []
  else ended.toList

def lines (fold : Bool) (indent : Nat) : List Char → Scan (List Char × List Char × List Char)
  | [] => return ([], [], [])
  | _ :: limit => do
      let indented := (← peek).any isBlank
      let line ← takeWhile (!isBreak ·)
      let ended ← lineBreak
      let breaks ← emptyLines indent (← ahead)
      if ← atLine indent then
        let nextIndented := (← peek).any isBlank
        let (more, last, behind) ← lines fold indent limit
        return (line ++ joint fold ended breaks indented nextIndented ++ breaks ++ more,
          last, behind)
      else return (line, ended.toList, breaks)

def block (outer : Int) : Scan String := do
  let fold := (← peek) == some '>'
  skip 1
  let (tail, depth) ← header
  restOfLine
  let least := (max (outer + 1) 1).toNat
  let (first, indent) ← match depth with
    | some d => do
        let indent := least + d - 1
        pure (← emptyLines indent (← ahead), indent)
    | none => do
        let (first, widest) ← leadingLines (← ahead) 0
        pure (first, max least widest)
  let (body, last, behind) ← if ← atLine indent then
      let (body, last, behind) ← lines fold indent (← ahead)
      pure (first ++ body, last, behind)
    else pure ([], [], first)
  return String.ofList (match tail with
    | .one => body ++ last
    | .none => body
    | .all => body ++ last ++ behind)

end CodeSurvey.Yaml.Unquoted
