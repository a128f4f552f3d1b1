import CodeSurvey.Script.Statement

namespace CodeSurvey.Script

mutual

def expressionAt : Nat → Mode → Parse Expr
  | 0, _ => failure
  | fuel + 1, m => Operand.expression
      { expression := expressionAt fuel, block := blockAt fuel, classBody := classBodyAt fuel } m

def blockAt : Nat → Parse Node
  | 0 => failure
  | fuel + 1 => fun c => Statement.block
      { expression := expressionAt fuel, block := blockAt fuel, classBody := classBodyAt fuel
        statement := statementAt fuel } c

def classBodyAt : Nat → Parse Node
  | 0 => failure
  | fuel + 1 => fun c => Statement.classBody
      { expression := expressionAt fuel, block := blockAt fuel, classBody := classBodyAt fuel
        statement := statementAt fuel } c

def statementAt : Nat → Bool → Parse Node
  | 0, _ => failure
  | fuel + 1, markup => Statement.statement
      { expression := expressionAt fuel, block := blockAt fuel, classBody := classBodyAt fuel
        statement := statementAt fuel } markup

end

def hashBang : Parse Unit := do
  let _ ← extras true
  exactly "#!"
  let line := (← place).rest.takeWhile (· != '\n')
  advance line.length

def bound (c : Cursor) : Nat := 4 * c.left + 8

def program : Parse Node := do
  let all ← place
  let _ ← orNothing hashBang
  let inner ← fun c => some (Statement.listFrom (statementAt (bound all)) (c.left + 1) true c)
  wideGap
  if (← place).left = 0 then return branch "program" inner else failure

def read (text : String) : Option Node :=
  (program (Cursor.ofText text)).map Prod.fst

end CodeSurvey.Script
