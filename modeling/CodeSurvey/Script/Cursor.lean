import CodeSurvey.Syntax
import CodeSurvey.Text.Blank

namespace CodeSurvey.Script

structure Cursor where
  rest : List Char
  left : Nat

abbrev Parse := StateT Cursor Option

namespace Cursor

def before (rest : List Char) : Cursor :=
  ⟨rest, rest.length⟩

def ofText (text : String) : Cursor :=
  before text.toList

def advance (c : Cursor) (n : Nat) : Cursor :=
  ⟨c.rest.drop n, c.left - n⟩

def textTo (c later : Cursor) : String :=
  String.ofList (c.rest.take (c.left - later.left))

end Cursor

def blankEdges : Text.Edges :=
  #[0x9, 0xe, 0x20, 0x21, 0x85, 0x86, 0xa0, 0xa1, 0x1680, 0x1681, 0x2000, 0x200c, 0x2028, 0x202a,
   0x202f, 0x2030, 0x205f, 0x2061, 0x3000, 0x3001, 0xfeff, 0xff00]

def isBlank (c : Char) : Bool :=
  blankEdges.contains c

def spaceEdges : Text.Edges :=
  #[0x9, 0xe, 0x20, 0x21, 0x1680, 0x1681, 0x2000, 0x2007, 0x2008, 0x200b, 0x2028, 0x202a,
   0x205f, 0x2060, 0x3000, 0x3001]

def isSpace (c : Char) : Bool :=
  spaceEdges.contains c

def isSeparator (c : Char) : Bool :=
  c.toNat == 0x2028 || c.toNat == 0x2029

def endsLine (c : Char) : Bool :=
  c == '\n' || c == '\r' || isSeparator c

def afterBlock : List Char → Option (List Char)
  | '*' :: '/' :: rest => some rest
  | _ :: rest => afterBlock rest
  | [] => none

def afterComment : List Char → Option (List Char)
  | '/' :: '/' :: rest => some (rest.dropWhile fun c => !endsLine c)
  | '/' :: '*' :: rest => afterBlock rest
  | _ => none

def afterMarkupComment : List Char → Option (List Char)
  | '<' :: '!' :: '-' :: '-' :: rest | '-' :: '-' :: '>' :: rest =>
      some (rest.dropWhile fun c => !(c == '\n' || isSeparator c))
  | _ => none

def skipFrom (markup : Bool) : Nat → Cursor → List Node × Cursor
  | 0, c => ([], c)
  | fuel + 1, c =>
      let blanks := (c.rest.takeWhile isBlank).length
      let c := c.advance blanks
      let after := (afterComment c.rest).or (if markup then afterMarkupComment c.rest else none)
      match after with
      | some rest =>
          let (comments, last) := skipFrom markup fuel (.before rest)
          ({ kind := "comment" } :: comments, last)
      | none => ([], c)

def extras (markup : Bool) : Parse (List Node) := fun c =>
  let (comments, c) := skipFrom markup (c.left + 1) c
  some (comments, c)

def gap : Parse Unit := do
  let _ ← extras false

def wideGap : Parse Unit := do
  let _ ← extras true

def place : Parse Cursor := get

def textSince (start : Cursor) : Parse String := do
  return start.textTo (← get)

def peek : Parse (Option Char) := do
  return (← get).rest.head?

def startsWith (s : String) : Parse Bool := do
  return s.toList.isPrefixOf (← get).rest

def advance (n : Nat) : Parse Unit :=
  modify fun c => c.advance n

def exactly (s : String) : Parse Unit := do
  if ← startsWith s then advance s.length else failure

def mark (s : String) : Parse Unit := do
  gap
  exactly s

def orNothing (p : Parse α) : Parse (Option α) := fun c =>
  match p c with
  | some (a, c) => some (some a, c)
  | none => some (none, c)

def ahead (p : Parse α) : Parse Bool := fun c =>
  some ((p c).isSome, c)

def repeatFrom (p : Parse α) : Nat → Cursor → List α × Cursor
  | 0, c => ([], c)
  | fuel + 1, c =>
      match p c with
      | some (a, next) =>
          if next.left < c.left then
            let (others, last) := repeatFrom p fuel next
            (a :: others, last)
          else ([], c)
      | none => ([], c)

def many (p : Parse α) : Parse (List α) := fun c =>
  some (repeatFrom p (c.left + 1) c)

end CodeSurvey.Script
