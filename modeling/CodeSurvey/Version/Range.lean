import CodeSurvey.Version.Basic

namespace CodeSurvey

inductive Relation where
  | equal
  | less
  | lessOrEqual
  | greater
  | greaterOrEqual
  deriving DecidableEq, Repr

def Relation.holds : Relation → Ordering → Bool
  | equal, o => o == .eq
  | less, o => o == .lt
  | lessOrEqual, o => o != .gt
  | greater, o => o == .gt
  | greaterOrEqual, o => o != .lt

inductive Comparator where
  | anything
  | than (relation : Relation) (version : Version)
  deriving DecidableEq, Repr

namespace Comparator

def accepts : Comparator → Version → Bool
  | anything, _ => true
  | than relation bound, v => relation.holds (v.order bound)

def allowsPrerelease : Comparator → Version → Bool
  | anything, _ => false
  | than _ bound, v => !bound.prerelease.isEmpty && bound.sameCore v

end Comparator

structure Range where
  alternatives : List (List Comparator)
  deriving DecidableEq, Repr

namespace Range

open Text Text.Rule

def blank : Rule := one isBlank

def blanks : Rule := many blank

def operator : Rule :=
  keep 0 (seq (opt (alt (char '<') (char '>'))) (opt (char '=')))

def placeholder : Rule := alt (alt (char 'x') (char 'X')) (char '*')

def openForm (number : Rule) (prerelease : Nat → Rule) (base : Nat) : Rule :=
  let part := alt number placeholder
  all [Version.lead, keep (base + 1) part, opt (all [char '.', keep (base + 2) part,
    opt (all [char '.', keep (base + 3) part, opt (prerelease (base + 4)), opt Version.build])])]

def looseOpen (base : Nat) : Rule := openForm Version.looseNumber Version.loosePrerelease base

def plainOpen (base : Nat) : Rule := openForm Version.plainNumber Version.plainPrerelease base

structure OpenVersion where
  major : Option (List Char)
  minor : Option (List Char)
  patch : Option (List Char)
  prerelease : Option (List Char)

def isOpen (part : List Char) : Bool :=
  part == ['x'] || part == ['X'] || part == ['*']

def openVersion (s : Spot) (base : Nat) : OpenVersion :=
  let known (part : Nat) := (s.part? (base + part)).filter (!isOpen ·)
  let major := known 1
  let minor := major.bind fun _ => known 2
  let patch := minor.bind fun _ => known 3
  ⟨major, minor, patch, s.part? (base + 4)⟩

def next (number : List Char) : List Char :=
  (toString (((number? number).getD 0) + 1)).toList

def dotted (a b c : List Char) : List Char := a ++ '.' :: b ++ '.' :: c

def zero : List Char := ['0']

def between (low high : List Char) : List Char :=
  ">=".toList ++ low ++ " <".toList ++ high

def hyphenForm : Rule :=
  all [blanks, keep 20 (looseOpen 0), many1 blank, char '-', many1 blank, keep 21 (looseOpen 10),
    blanks, finish]

def lowerEnd (v : OpenVersion) (text : List Char) : List Char :=
  match v.major, v.minor, v.patch with
  | none, _, _ => []
  | some major, none, _ => ">=".toList ++ dotted major zero zero
  | some major, some minor, none => ">=".toList ++ dotted major minor zero
  | _, _, _ => ">=".toList ++ text

def upperEnd (v : OpenVersion) (text : List Char) : List Char :=
  match v.major, v.minor, v.patch with
  | none, _, _ => []
  | some major, none, _ => '<' :: dotted (next major) zero zero
  | some major, some minor, none => '<' :: dotted major (next minor) zero
  | some major, some minor, some patch =>
      match v.prerelease with
      | some pre => "<=".toList ++ dotted major minor patch ++ '-' :: pre
      | none => "<=".toList ++ text

def expandHyphen (cs : List Char) : List Char :=
  match hyphenForm.match? cs with
  | some s =>
      let low := lowerEnd (openVersion s 0) ((s.part? 20).getD [])
      let high := upperEnd (openVersion s 10) ((s.part? 21).getD [])
      trim (low ++ ' ' :: high)
  | none => cs

def tightenOperators (cs : List Char) : List Char :=
  replace (all [keep 30 blanks, operator, blanks, keep 31 (alt Version.looseForm (plainOpen 10))])
    (fun s => (s.part? 30).getD [] ++ (s.part? 0).getD [] ++ (s.part? 31).getD []) cs

def tilde : Rule := seq (char '~') (opt (char '>'))

def caret : Rule := char '^'

def tightenMark (mark : Rule) (sign : Char) (cs : List Char) : List Char :=
  replace (all [keep 30 blanks, mark, many1 blank]) (fun s => (s.part? 30).getD [] ++ [sign]) cs

def suffixed (core : List Char) (prerelease : Option (List Char)) : List Char :=
  match prerelease with
  | some pre => core ++ '-' :: pre
  | none => core

def caretRange (v : OpenVersion) : List Char :=
  match v.major, v.minor, v.patch with
  | none, _, _ => []
  | some major, none, _ => between (dotted major zero zero) (dotted (next major) zero zero)
  | some major, some minor, none =>
      between (dotted major minor zero)
        (if major == zero then dotted major (next minor) zero else dotted (next major) zero zero)
  | some major, some minor, some patch =>
      between (suffixed (dotted major minor patch) v.prerelease)
        (if major == zero then
          if minor == zero then dotted major minor (next patch) else dotted major (next minor) zero
        else dotted (next major) zero zero)

def tildeRange (v : OpenVersion) : List Char :=
  match v.major, v.minor, v.patch with
  | none, _, _ => []
  | some major, none, _ => between (dotted major zero zero) (dotted (next major) zero zero)
  | some major, some minor, none =>
      between (dotted major minor zero) (dotted major (next minor) zero)
  | some major, some minor, some patch =>
      between (suffixed (dotted major minor patch) v.prerelease) (dotted major (next minor) zero)

def openRange (op : List Char) (v : OpenVersion) (text : List Char) : List Char :=
  let op := if op == ['='] && v.patch.isNone then [] else op
  match v.major, v.minor, v.patch with
  | none, _, _ => if op == ['>'] || op == ['<'] then "<0.0.0".toList else ['*']
  | some major, none, _ =>
      if op.isEmpty then between (dotted major zero zero) (dotted (next major) zero zero)
      else if op == ['>'] then ">=".toList ++ dotted (next major) zero zero
      else if op == ['<', '='] then '<' :: dotted (next major) zero zero
      else op ++ dotted major zero zero
  | some major, some minor, none =>
      if op.isEmpty then between (dotted major minor zero) (dotted major (next minor) zero)
      else if op == ['>'] then ">=".toList ++ dotted major (next minor) zero
      else if op == ['<', '='] then '<' :: dotted major (next minor) zero
      else op ++ dotted major minor zero
  | _, _, _ => text

def expandWords (form : Rule) (f : Spot → List Char → List Char) (cs : List Char) : List Char :=
  glue ' ' ((splitBlanks (trim cs)).map fun word =>
    match (seq form finish).match? word with
    | some s => f s word
    | none => word)

def expandCarets : List Char → List Char :=
  expandWords (seq caret (looseOpen 0)) fun s _ => caretRange (openVersion s 0)

def expandTildes : List Char → List Char :=
  expandWords (seq tilde (looseOpen 0)) fun s _ => tildeRange (openVersion s 0)

def expandOpen : List Char → List Char :=
  expandWords (all [operator, blanks, looseOpen 0]) fun s word =>
    openRange ((s.part? 0).getD []) (openVersion s 0) word

def dropStars (cs : List Char) : List Char :=
  replace (all [opt (alt (char '<') (char '>')), opt (char '='), blanks, char '*']) (fun _ =>
    []) (trim cs)

def expandWord (word : List Char) : List Char :=
  dropStars (expandOpen (expandTildes (expandCarets word)))

def relationOf (op : List Char) : Relation :=
  if op == ['<'] then .less
  else if op == ['<', '='] then .lessOrEqual
  else if op == ['>'] then .greater
  else if op == ['>', '='] then .greaterOrEqual
  else .equal

def comparator? (word : List Char) : Option Comparator :=
  if word.isEmpty then some .anything
  else do
    let s ← (all [operator, blanks, keep 40 Version.looseForm, finish]).match? word
    let v ← Version.read ((s.part? 40).getD [])
    pure (.than (relationOf ((s.part? 0).getD [])) v)

def comparators (part : List Char) : List Comparator :=
  let cs := expandHyphen part
  let cs := tightenOperators cs
  let cs := tightenMark tilde '~' cs
  let cs := tightenMark caret '^' cs
  let words := glue ' ' ((splitBlanks cs).map expandWord)
  (splitBlanks words).filterMap comparator?

def bar : Rule := all [blanks, word "||", blanks]

def read (text : List Char) : Option Range :=
  match ((bar.split text).map fun part => comparators (trim part)).filter (!·.isEmpty) with
  | [] => none
  | alternatives => some ⟨alternatives⟩

def alternativeAccepts (v : Version) (comparators : List Comparator) : Bool :=
  comparators.all (·.accepts v)
    && (v.prerelease.isEmpty || comparators.any (·.allowsPrerelease v))

def accepts (r : Range) (v : Version) : Bool :=
  r.alternatives.any (alternativeAccepts v)

def acceptsText (version range : String) : Bool :=
  match read range.toList with
  | none => false
  | some r =>
      if version.isEmpty then false
      else match Version.read version.toList with
        | some v => r.accepts v
        | none => false

end Range

end CodeSurvey
