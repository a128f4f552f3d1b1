import CodeSurvey.Text.Blank
import CodeSurvey.Text.Pieces
import CodeSurvey.Text.Rule

namespace CodeSurvey

namespace Text

def zeros : Array Nat :=
  #[0x30, 0x660, 0x6f0, 0x7c0, 0x966, 0x9e6, 0xa66, 0xae6, 0xb66, 0xbe6, 0xc66, 0xce6, 0xd66, 0xde6,
   0xe50, 0xed0, 0xf20, 0x1040, 0x1090, 0x17e0, 0x1810, 0x1946, 0x19d0, 0x1a80, 0x1a90, 0x1b50,
   0x1bb0, 0x1c40, 0x1c50, 0xa620, 0xa8d0, 0xa900, 0xa9d0, 0xa9f0, 0xaa50, 0xabf0, 0xff10,
   0x104a0, 0x10d30, 0x11066, 0x110f0, 0x11136, 0x111d0, 0x112f0, 0x11450, 0x114d0, 0x11650,
   0x116c0, 0x11730, 0x118e0, 0x11950, 0x11c50, 0x11d50, 0x11da0, 0x16a60, 0x16ac0, 0x16b50,
   0x1d7ce, 0x1d7d8, 0x1d7e2, 0x1d7ec, 0x1d7f6, 0x1e140, 0x1e2f0, 0x1e950, 0x1fbf0]

def digitValue? (c : Char) : Option Nat :=
  (zeros.find? fun z => z ≤ c.toNat && c.toNat < z + 10).map (c.toNat - ·)

def isDigit (c : Char) : Bool :=
  (digitValue? c).isSome

def number? (cs : List Char) : Option Nat :=
  if cs.isEmpty then none else cs.foldlM (fun acc c => (digitValue? c).map (acc * 10 + ·)) 0

end Text

inductive Release where
  | number (n : Nat)
  | word (text : List Char)
  deriving DecidableEq, Repr

structure Version where
  major : Nat
  minor : Nat
  patch : Nat
  prerelease : List Release := []
  micro : List Nat := []
  deriving DecidableEq, Repr

namespace Version

open Text Text.Rule

def isAsciiDigit (c : Char) : Bool := c.isDigit

def isLetterOrHyphen (c : Char) : Bool := c.isAlpha || c == '-'

def isWordChar (c : Char) : Bool := c.isAlphanum || c == '-'

def plainNumber : Rule :=
  alt (char '0') (seq (one fun c => '1' ≤ c && c ≤ '9') (many (one isDigit)))

def looseNumber : Rule := many1 (one isAsciiDigit)

def releaseWord : Rule :=
  all [many (one isDigit), one isLetterOrHyphen, many (one isWordChar)]

def looseRelease : Rule := alt looseNumber releaseWord

def loosePrerelease (part : Nat) : Rule :=
  seq (opt (char '-')) (keep part (seq
    (alt (seq (behind (· == '-')) looseRelease)
    (seq (one isLetterOrHyphen) (many (one isWordChar)))) (many (seq (char '.') looseRelease))))

def plainPrerelease (part : Nat) : Rule :=
  let identifier := alt plainNumber releaseWord
  seq (char '-') (keep part (seq identifier (many (seq (char '.') identifier))))

def build : Rule :=
  all [char '+', many1 (one isWordChar), many (seq (char '.') (many1 (one isWordChar)))]

def lead : Rule := many (one fun c => c == 'v' || c == '=' || isBlank c)

def looseForm : Rule :=
  all [lead, keep 1 looseNumber, char '.', keep 2 looseNumber, char '.', keep 3 looseNumber,
    opt (loosePrerelease 4), opt build]

def recoveryForm : Rule :=
  all [opt (char 'v'), keep 1 plainNumber, opt (seq (char '.') (keep 2 plainNumber)),
    opt (loosePrerelease 4)]

def numberOf (s : Spot) (part : Nat) : Nat :=
  ((s.part? part).bind number?).getD 0

def releaseOf (cs : List Char) : Release :=
  if !cs.isEmpty && cs.all isAsciiDigit then .number ((number? cs).getD 0) else .word cs

def prereleaseOf (s : Spot) : List Release :=
  match s.part? 4 with
  | some cs => (pieces '.' cs).map releaseOf
  | none => []

def addPart (v : Version) (part : List Char) : Option Version :=
  let split (sep : Char) (keepWords : Bool) : Version :=
    (pieces sep part).foldl (fun v piece =>
      match number? piece with
      | some n => { v with micro := v.micro ++ [n] }
      | none => if keepWords then { v with prerelease := v.prerelease ++ [.word piece] } else v) v
  match number? part with
  | some n => some { v with micro := v.micro ++ [n] }
  | none =>
      if part.contains '-' then some (split '-' true)
      else if part.contains '+' then some (split '+' false)
      else none

def addRest (v : Version) (rest : List Char) : Option Version :=
  match (pieces '.' rest).filter (!·.isEmpty) with
  | [] => some v
  | first :: more =>
      match number? first with
      | some n => more.foldlM addPart { v with patch := n }
      | none => (first :: more).foldlM addPart v

def read (text : List Char) : Option Version :=
  let cs := trim text
  match (seq looseForm finish).match? cs with
  | some s => some {
      major := numberOf s 1
      minor := numberOf s 2
      patch := numberOf s 3
      prerelease := prereleaseOf s }
  | none => do
      let s ← recoveryForm.match? cs
      let v : Version := { major := numberOf s 1, minor := numberOf s 2, patch := 0 }
      match s.part? 4 with
      | some _ => pure { v with prerelease := prereleaseOf s }
      | none => addRest v s.rest

def compareRelease : Release → Release → Ordering
  | .number a, .number b => compare a b
  | .number _, .word _ => .lt
  | .word _, .number _ => .gt
  | .word a, .word b => if a = b then .eq else if a < b then .lt else .gt

def compareReleases : List Release → List Release → Ordering
  | [], [] => .eq
  | [], _ :: _ => .lt
  | _ :: _, [] => .gt
  | a :: as, b :: bs => (compareRelease a b).then (compareReleases as bs)

def comparePrerelease : List Release → List Release → Ordering
  | [], [] => .eq
  | [], _ :: _ => .gt
  | _ :: _, [] => .lt
  | as, bs => compareReleases as bs

def compareMicro : List Nat → List Nat → Ordering
  | [], [] => .eq
  | [], _ :: _ => .lt
  | _ :: _, [] => .gt
  | a :: as, b :: bs => (compare a b).then (compareMicro as bs)

def order (a b : Version) : Ordering :=
  (compare a.major b.major).then <| (compare a.minor b.minor).then <|
    (compare a.patch b.patch).then <|
    (comparePrerelease a.prerelease b.prerelease).then (compareMicro a.micro b.micro)

def sameCore (a b : Version) : Bool :=
  a.major == b.major && a.minor == b.minor && a.patch == b.patch

end Version

end CodeSurvey
