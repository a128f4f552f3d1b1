import CodeSurvey.Fault

namespace CodeSurvey.Yaml

def isBreak (c : Char) : Bool :=
  c == '\n' || c == '\u0085' || c == '\u2028' || c == '\u2029'

def isBlank (c : Char) : Bool := c == ' ' || c == '\t'

def isGap (c : Char) : Bool := isBlank c || isBreak c

def isSpaceOrBreak (c : Char) : Bool := c == ' ' || isBreak c

def isNameChar (c : Char) : Bool := c.isAlphanum || c == '-' || c == '_'

structure Cursor where
  rest : List Char
  index : Nat := 0
  line : Nat := 0
  column : Nat := 0

namespace Cursor

def next (c : Cursor) : Cursor :=
  match c.rest with
  | [] => c
  | a :: rest =>
      if isBreak a then ⟨rest, c.index + 1, c.line + 1, 0⟩
      else ⟨rest, c.index + 1, c.line, if a == '\ufeff' then c.column else c.column + 1⟩

def skip : Nat → Cursor → Cursor
  | 0, c => c
  | n + 1, c => skip n c.next

end Cursor

abbrev Scan := StateT Cursor (Except Fault)

def refuse : Scan α := throw .settingsText

def ahead : Scan (List Char) := return (← get).rest

def peek : Scan (Option Char) := return (← get).rest.head?

def skip (n : Nat) : Scan Unit := modify (·.skip n)

def takeWhile (p : Char → Bool) : Scan (List Char) := do
  let taken := (← ahead).takeWhile p
  skip taken.length
  return taken

def skipWhile (p : Char → Bool) : Scan Unit := do
  let _ ← takeWhile p

def needNext (p : Char → Bool) : Scan Unit := do
  if !(← peek).all p then refuse

def keptBreak (c : Char) : Char := if c == '\u0085' then '\n' else c

def lineBreak : Scan (Option Char) := do
  match ← peek with
  | some c =>
      if isBreak c then
        skip 1
        return some (keptBreak c)
      else return none
  | none => return none

def skipComment : Scan Unit := do
  if (← peek) == some '#' then skipWhile (!isBreak ·)

def restOfLine : Scan Unit := do
  skipWhile (· == ' ')
  skipComment
  needNext isBreak
  let _ ← lineBreak

def isMark (mark : String) (cs : List Char) : Bool :=
  cs.take 3 == mark.toList && (cs.drop 3).head?.all isGap

def isDocumentMark (cs : List Char) : Bool := isMark "---" cs || isMark "..." cs

def folded (first : Char) (more : List Char) : List Char :=
  if first != '\n' then first :: more else if more.isEmpty then [' '] else more

def digitValue (c : Char) : Nat :=
  if c.isDigit then c.toNat - 48 else c.toLower.toNat - 87

def isHex (c : Char) : Bool :=
  c.isDigit || ('a' ≤ c && c ≤ 'f') || ('A' ≤ c && c ≤ 'F')

def numberIn (base : Nat) (cs : List Char) : Nat :=
  cs.foldl (fun n c => n * base + digitValue c) 0

end CodeSurvey.Yaml
