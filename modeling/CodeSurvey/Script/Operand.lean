import CodeSurvey.Script.Markup

namespace CodeSurvey.Script.Operand

open Expression

def signed (r : Rules) (m : Mode) (c : Char) : Parse Expr :=
  if c == '(' then parenthesized r m
  else if c == '[' then array r
  else if c == '\x7b' then object r
  else if isStringQuote c then plain <$> string
  else if c == '\x60' then plain <$> template r
  else if c == '/' then plain <$> regex
  else if c == '<' then do return plain (← Markup.element r ((← place).left + 1))
  else if c == '@' then plain <$> classExpression r
  else plain <$> number

def named (r : Rules) : Parse Expr := do
  let start ← place
  let w ← word
  if constants.contains w then return plain (leaf w w)
  else if w == "function" then
    plain <$> functionAfter r "function_expression" "generator_function" false
  else if w == "class" then plain <$> classAfter r "class" false []
  else if w == "import" then importOperand r
  else if w == "async" then do
    let f ← orNothing do
      keyword "function"
      functionAfter r "function_expression" "generator_function" false
    match f with
    | some f => return plain f
    | none => return targetOf (leaf "identifier" w)
  else if w == "export" then return targetOf (leaf "identifier" (← textSince start))
  else if reserved.contains w then failure
  else return targetOf (leaf "identifier" w)

def isSign (c : Char) : Bool := wordSigns.contains c || c.isDigit

def primary (r : Rules) : Parse Expr := do
  wideGap
  match ← peek with
  | some c => if isSign c && c != '\\' then signed r {} c else named r
  | none => failure

-- More steps than an operand takes: each sign or word in front of it takes three.
def budget : Parse Nat := do
  return 4 * (← place).left + 8

def madeFrom (r : Rules) : Nat → Parse Expr
  | 0 => failure
  | fuel + 1 => do
      if (← nextOperator) == some "." then
        operator "."
        let _ ← propertyWord
        return plain (branch "meta_property" [])
      let made ← (do keyword "new"; madeFrom r fuel) <|> primary r
      let made ← steps (step r false) made
      if !made.form.value then failure
      let args ← if (← nextOperator) == some "(" then some <$> arguments r else pure none
      return plain (branch "new_expression"
        (withRole "constructor" made.node :: (args.map (withRole "arguments")).toList))

def afterYield (r : Rules) (m : Mode) : Parse Expr := do
  let nothing := plain (branch "yield_expression" [])
  if m.open_ && (← endsHere false) then return nothing
  (do
    let _ ← orNothing (operator "*")
    return plain (branch "yield_expression" [← value r m])) <|> pure nothing

def isComplete (e : Expr) : Bool :=
  e.node.kind == "unary_expression" || e.node.kind == "yield_expression"

def completed (r : Rules) (m : Mode) (first : Expr) : Parse Expr := do
  if isComplete first then return first
  let e ← steps (stepOrCount r m) first
  assigned r m e <|> pure e

def unaryOf (e : Expr) : Parse Expr :=
  if e.form.value then return plain (branch "unary_expression" [e.node]) else failure

def awaitedParts (r : Rules) (m : Mode) (name : Node) : Parse Expr := do
  mark "("
  let ps ← parts r ")"
  (do unaryOf (← completed r m (← ofParts r m ps))) <|> callWith name ps

mutual

def operand (r : Rules) (m : Mode) : Nat → Parse Expr
  | 0 => failure
  | fuel + 1 => do
      completed r m (← leading r m fuel)

def leading (r : Rules) (m : Mode) : Nat → Parse Expr
  | 0 => failure
  | fuel + 1 => do
      wideGap
      match operatorOf (← place).rest with
      | some o =>
          if prefixSigns.contains o then do
            advance o.length
            unary r m fuel
          else if o == "(" then parenthesized r m
          else if o == "#" then do
            let name ← privateName
            if ← ahead (keyword "in") then return plain name else failure
          else primary r
      | none => worded r m fuel

def unary (r : Rules) (m : Mode) : Nat → Parse Expr
  | 0 => failure
  | fuel + 1 => do
      unaryOf (← operand r m fuel)

def worded (r : Rules) (m : Mode) : Nat → Parse Expr
  | 0 => failure
  | fuel + 1 => do
      let start ← place
      let w ← orNothing word
      match w with
      | none => primary r
      | some w =>
          if prefixWords.contains w then unary r m fuel
          else if w == "new" then madeFrom r (fuel + 1)
          else if w == "await" then
            if (← nextOperator) == some "(" then awaitedParts r m (leaf "identifier" w)
            else unary r m fuel <|> afterName r m (leaf "identifier" w)
          else if w == "yield" then afterYield r m
          else if w == "async" then asyncOperand r m
          else if reserved.contains w then do
            set start
            primary r
          else afterName r m (leaf "identifier" w)

end

def binaryTail (r : Rules) (m : Mode) : Parse Node := do
  match ← nextOperator with
  | some o => if binaries.contains o then operator o else failure
  | none => keyword "instanceof" <|> (if m.withoutIn then failure else keyword "in")
  let e ← operand r m (← budget)
  if e.form.value then return e.node else failure

def ternaryTail (r : Rules) (m : Mode) : Parse (List Node) := do
  operator "?"
  let a ← value r {}
  mark ":"
  let b ← value r m
  return [a, b]

def expression (r : Rules) (m : Mode) : Parse Expr := do
  let first ← operand r m (← budget)
  if !first.form.value then return first
  let others ← many (binaryTail r m)
  let whole :=
    if others.isEmpty then first else plain (branch "binary_expression" (first.node :: others))
  match ← orNothing (ternaryTail r m) with
  | some choices => return plain (branch "ternary_expression" (whole.node :: choices))
  | none => return whole

end CodeSurvey.Script.Operand
