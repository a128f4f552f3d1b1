import CodeSurvey.Text.Blank
import CodeSurvey.Text.Pieces

namespace CodeSurvey.Pattern

structure Group where
  before : List Char
  inside : List Char
  after : List Char
  deriving Repr

def isBrace (c : Char) : Bool := c == '\x7b' || c == '\x7d'

def firstGroupFrom (passed : List Char) : List Char → Option Group
  | [] => none
  | c :: rest =>
      if c = '\x7b' then
        let inside := rest.takeWhile (!isBrace ·)
        match rest.dropWhile (!isBrace ·) with
        | '\x7d' :: after =>
            if inside.isEmpty then firstGroupFrom (c :: passed) rest
            else some ⟨passed.reverse, inside, after⟩
        | _ => firstGroupFrom (c :: passed) rest
      else firstGroupFrom (c :: passed) rest

def firstGroup (pattern : List Char) : Option Group :=
  firstGroupFrom [] pattern

def Group.options (g : Group) : List (List Char) :=
  ((Text.pieces ',' g.inside).map Text.trim).filter (!·.isEmpty)

def Group.replace (g : Group) (option : List Char) : List Char :=
  g.before ++ option ++ g.after

-- Each step closes one group, so the number of opening braces bounds the steps.
def expandWithin : Nat → List Char → List (List Char)
  | 0, pattern => [pattern]
  | steps + 1, pattern =>
      match firstGroup pattern with
      | none => [pattern]
      | some g =>
          match g.options with
          | [] => [pattern]
          | options => options.flatMap fun option => expandWithin steps (g.replace option)

def expand (pattern : List Char) : List (List Char) :=
  expandWithin (pattern.count '\x7b') pattern

def expansions (pattern : String) : List String :=
  (expand pattern.toList).map String.ofList

end CodeSurvey.Pattern
