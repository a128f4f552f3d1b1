import CodeSurvey.Fault
import CodeSurvey.Outline.Statement

namespace CodeSurvey.Outline

def rulesAt : Nat → Rules
  | 0 =>
      { expression := failure
        choice := failure
        arithmetic := failure
        primary := failure
        reads := fun _ => false }
  | depth + 1 =>
      { expression := fun ts => Expression.single (rulesAt depth) ts
        choice := fun ts => Expression.choice (rulesAt depth) ts
        arithmetic := fun ts => Expression.arithmetic (rulesAt depth) ts
        primary := fun ts => Expression.primary (rulesAt depth) ts
        reads := fun cs =>
          match Token.within ('(' :: cs ++ [')']) with
          | some ts => ((Expression.values (rulesAt depth)).run ts).any (·.2.isEmpty)
          | none => false }

-- The outline of a list of tokens. No depth is more than the length of the text.
def ofTokens (depth : Nat) (ts : List Token) : Option (List OutlineItem) :=
  if ts.isEmpty then some []
  else
    match Statement.statements (rulesAt depth) ts with
    | some (items, []) => some items
    | _ => none

def read (text : String) : Except Fault (Option (List OutlineItem)) :=
  if text.toList.contains '\x00' then .error .invalid
  else
    let cs := text.toList
    .ok ((Token.all cs).bind (ofTokens (cs.length + 1)))

end CodeSurvey.Outline
