namespace CodeSurvey

inductive OutlineKind where
  | function
  | asyncFunction
  | classDef
  | block
  deriving DecidableEq, Repr, Inhabited

structure OutlineItem where
  kind : OutlineKind
  name : String := ""
  line : Int := 1
  body : List OutlineItem := []
  deriving Repr, Inhabited

namespace OutlineItem

mutual

def depth : OutlineItem → Nat
  | ⟨_, _, _, body⟩ => depths body + 1

def depths : List OutlineItem → Nat
  | [] => 0
  | i :: rest => max (depth i) (depths rest)

end

def byLevel : Nat → List OutlineItem → List OutlineItem
  | 0, _ => []
  | levels + 1, items => items ++ byLevel levels (items.flatMap (·.body))

def all (items : List OutlineItem) : List OutlineItem :=
  byLevel (depths items) items

end OutlineItem

end CodeSurvey
