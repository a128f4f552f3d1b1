import CodeSurvey.Script.Semicolon
import CodeSurvey.Script.Token

namespace CodeSurvey.Script

structure Form where
  value : Bool := true
  target : Bool := false
  withDefault : Bool := false

structure Expr where
  node : Node
  form : Form := {}

namespace Expr

def isParameter (e : Expr) : Bool := e.form.target || e.form.withDefault

end Expr

structure Mode where
  open_ : Bool := false
  withoutIn : Bool := false

structure Rules where
  expression : Mode → Parse Expr
  block : Parse Node
  classBody : Parse Node

def branch (kind : String) (children : List Node) : Node := { kind, children }

def withRole (role : String) (n : Node) : Node := { n with role := some role }

def plain (node : Node) : Expr := { node }

def targetOf (node : Node) : Expr := { node, form := { target := true } }

namespace Expression

def value (r : Rules) (m : Mode) : Parse Node := do
  let e ← r.expression m
  if e.form.value then return e.node else failure

def sequence (r : Rules) (m : Mode) : Parse Node := do
  let first ← value r m
  let others ← many do
    mark ","
    value r m
  if others.isEmpty then return first else return branch "sequence_expression" (first :: others)

inductive Part where
  | comma
  | item (e : Expr)
  | spread (e : Expr)
  | comment (n : Node)

namespace Part

def node? : Part → Option Node
  | comma => none
  | item e => some e.node
  | spread e => some (branch "spread_element" [e.node])
  | comment n => some n

def isComment : Part → Bool
  | comment _ => true
  | _ => false

def isComma : Part → Bool
  | comma => true
  | _ => false

def isValue : Part → Bool
  | comma | comment _ => true
  | item e | spread e => e.form.value

def isPlainValue : Part → Bool
  | comma | comment _ => true
  | item e => e.form.value
  | spread _ => false

def isParameter : Part → Bool
  | comma | comment _ => true
  | item e | spread e => e.isParameter

end Part

def spread (r : Rules) : Parse Expr := do
  mark "..."
  r.expression {}

def ended (closing : String) (p : Parse α) : Parse α := do
  let a ← p
  let ends ← ahead do
    let _ ← extras true
    exactly "," <|> exactly closing
  if ends then return a else failure

def parts (r : Rules) (closing : String) : Parse (List Part) := do
  let groups ← many do
    let comments ← extras true
    let part ← (do exactly ","; return Part.comma) <|>
      ended closing ((Part.spread <$> spread r) <|> (Part.item <$> r.expression {}))
    return comments.map Part.comment ++ [part]
  let comments ← extras true
  exactly closing
  return groups.flatten ++ comments.map Part.comment

def isFull : List Part → Bool
  | [] => true
  | [p] => !p.isComma
  | p :: q :: rest => !p.isComma && q.isComma && isFull rest

def isEveryOther : List Part → Bool
  | [] => true
  | p :: rest => if p.isComma then isEveryOther rest else match rest with
      | [] => true
      | q :: more => q.isComma && isEveryOther more

def listed (ps : List Part) : List Part := ps.filter fun p => !p.isComment

def isLoose (ps : List Part) : Bool := isEveryOther (listed ps)

def areParameters (ps : List Part) : Bool :=
  isFull (listed ps) && ps.all (·.isParameter)

def nodes (ps : List Part) : List Node := ps.filterMap Part.node?

def parameters (r : Rules) : Parse Node := do
  mark "("
  let ps ← parts r ")"
  if areParameters ps then return branch "formal_parameters" (nodes ps) else failure

def areArguments (ps : List Part) : Bool := isLoose ps && ps.all (·.isValue)

def arguments (r : Rules) : Parse Node := do
  mark "("
  let ps ← parts r ")"
  if areArguments ps then return branch "arguments" (nodes ps) else failure

def opensObject : Parse Bool :=
  ahead do
    exactly "\x7b"
    gap
    let w ← orNothing word
    if w.any reserved.contains then failure

def arrowBody (r : Rules) (m : Mode) (parameters : List Node) : Parse Expr := do
  wideGap
  let body ← if !(← startsWith "\x7b") then value r m
    else if ← opensObject then r.block <|> value r m
    else r.block
  return plain (branch "arrow_function" (parameters ++ [body]))

def functionAfter (r : Rules) (kind generatorKind : String) (named : Bool) : Parse Node := do
  let star ← orNothing (mark "*")
  let name ← if named then some <$> identifier else orNothing identifier
  let ps ← parameters r
  let body ← r.block
  return branch (if star.isSome then generatorKind else kind)
    ((name.map (withRole "name")).toList ++ [ps, body])

def functionExpression (r : Rules) : Parse Node := do
  keyword "function"
  functionAfter r "function_expression" "generator_function" false

def chunkLength : List Char → Nat
  | '$' :: '{' :: _ => 0
  | c :: rest => if c == '\x60' || c == '\\' then 0 else chunkLength rest + 1
  | [] => 0

def templatePart (r : Rules) : Parse (Option Node) := do
  let start ← place
  match start.rest with
  | '$' :: '{' :: _ =>
      advance 2
      let e ← sequence r {}
      mark "\x7d"
      return some (branch "template_substitution" [e])
  | '\\' :: rest =>
      match afterEscape rest with
      | some rest => set (Cursor.before rest)
      | none => failure
      return none
  | cs =>
      let n := chunkLength cs
      if n = 0 then failure
      advance n
      return some (leaf "string_fragment" (← textSince start))

def template (r : Rules) : Parse Node := do
  exactly "\x60"
  let inner ← many (templatePart r)
  exactly "\x60"
  return branch "template_string" (inner.filterMap id)

def propertyWord : Parse Node := do
  gap
  return leaf "property_identifier" (← word)

def computedName (r : Rules) : Parse Node := do
  mark "["
  let e ← value r {}
  mark "]"
  return branch "computed_property_name" [e]

def propertyName (r : Rules) : Parse Node :=
  propertyWord <|> privateName <|> string <|> number <|> computedName r

def decoratorName : Parse Node := do
  let first ← identifier
  let others ← many do
    mark "."
    propertyWord
  if others.isEmpty then return first else return branch "member_expression" (first :: others)

def decorator (r : Rules) : Parse Node := do
  mark "@"
  let name ← decoratorName
  match ← orNothing (arguments r) with
  | some args =>
      return branch "decorator"
        [branch "call_expression" [withRole "function" name, withRole "arguments" args]]
  | none => return branch "decorator" [name]

def methodLead (words : List Bool) : Parse Unit := do
  match words with
  | [isStatic, isAsync, hasAccessor] => do
      if isStatic then keyword "static"
      if isAsync then keyword "async"
      if hasAccessor then (keyword "get" <|> keyword "set" <|> mark "*")
  | _ => failure

def methodNamed (r : Rules) (decorators : List Node) : Parse Node := do
  let name ← propertyName r
  let ps ← parameters r
  let body ← r.block
  return branch "method_definition" (decorators ++ [withRole "name" name, ps, body])

def leads : List (List Bool) :=
  [[true, true, true], [true, true, false], [true, false, true], [true, false, false],
   [false, true, true], [false, true, false], [false, false, true], [false, false, false]]

def firstOf (choices : List (Parse α)) : Parse α :=
  choices.foldr (fun p rest => p <|> rest) failure

def method (r : Rules) : Parse Node := do
  let decorators ← many (decorator r)
  firstOf (leads.map fun lead => do
    methodLead lead
    methodNamed r decorators)

def pair (r : Rules) : Parse Expr := do
  let name ← propertyName r
  mark ":"
  let e ← r.expression {}
  return { node := branch "pair" [withRole "key" name, withRole "value" e.node]
           form := { value := e.form.value, target := e.isParameter } }

def shorthand (r : Rules) : Parse Expr := do
  let name ← identifier
  match ← orNothing (operator "=") with
  | some _ =>
      let e ← value r {}
      return {
        node := branch "object_assignment_pattern" [name, e]
        form := { value := false, target := true } }
  | none => return targetOf { name with kind := "shorthand_property_identifier" }

def rest (r : Rules) : Parse Expr := do
  let e ← spread r
  return { node := branch "spread_element" [e.node], form := { value := e.form.value, target := e.form.target } }

def member (r : Rules) : Parse Expr := do
  let e ← rest r <|> pair r <|> (plain <$> method r) <|> shorthand r
  gap
  if (← startsWith ",") || (← startsWith "\x7d") then return e else failure

def object (r : Rules) : Parse Expr := do
  exactly "\x7b"
  let members ← many ((do mark ","; return none) <|> (some <$> member r))
  mark "\x7d"
  let members := members.filterMap id
  return { node := branch "object" (members.map (·.node))
           form := { value := members.all (·.form.value), target := members.all (·.form.target) } }

def array (r : Rules) : Parse Expr := do
  exactly "["
  let ps ← parts r "]"
  if !isLoose ps then failure
  return { node := branch "array" (nodes ps)
           form := { value := ps.all (·.isValue), target := ps.all (·.isParameter) } }

def classAfter (r : Rules) (kind : String) (named : Bool) (decorators : List Node) :
    Parse Node := do
  let name ← if named then some <$> identifier else orNothing identifier
  let heritage ← orNothing do
    keyword "extends"
    value r {}
  let body ← r.classBody
  return branch kind (decorators ++ (name.map (withRole "name")).toList
    ++ heritage.toList ++ [body])

def classExpression (r : Rules) : Parse Node := do
  let decorators ← many (decorator r)
  keyword "class"
  classAfter r "class" false decorators

def ofParts (r : Rules) (m : Mode) (ps : List Part) : Parse Expr := do
  if (← nextOperator) == some "=>" then
    if !areParameters ps then failure
    operator "=>"
    arrowBody r m [branch "formal_parameters" (nodes ps)]
  else
    let items := listed ps
    if items.isEmpty || !isFull items || (items.getLast?.any Part.isComma)
      || !ps.all Part.isPlainValue then failure
    return plain (branch "parenthesized_expression" (nodes ps))

def parenthesized (r : Rules) (m : Mode) : Parse Expr := do
  exactly "("
  ofParts r m (← parts r ")")

def afterName (r : Rules) (m : Mode) (name : Node) : Parse Expr := do
  if (← nextOperator) == some "=>" then
    operator "=>"
    arrowBody r m [withRole "parameter" name]
  else return targetOf name

def callOf (e args : Node) : Expr :=
  plain (branch "call_expression" [withRole "function" e, withRole "arguments" args])

def callWith (e : Node) (ps : List Part) : Parse Expr := do
  if areArguments ps then return callOf e (branch "arguments" (nodes ps)) else failure

def asyncParts (r : Rules) (m : Mode) (name : Node) : Parse Expr := do
  mark "("
  let ps ← parts r ")"
  if (← nextOperator) == some "=>" then ofParts r m ps else callWith name ps

def asyncArrow (r : Rules) (m : Mode) : Parse Expr := do
  let parameter ← identifier
  operator "=>"
  arrowBody r m [withRole "parameter" parameter]

def asyncOperand (r : Rules) (m : Mode) : Parse Expr := do
  let name := leaf "identifier" "async"
  if m.open_ && (← endsHere false) then return targetOf name
  match ← nextOperator with
  | some "=>" => afterName r m name
  | some "(" => asyncParts r m name
  | _ => asyncArrow r m <|> (plain <$> functionExpression r) <|> pure (targetOf name)

def importOperand (r : Rules) : Parse Expr := do
  let name := leaf "import" "import"
  if (← nextOperator) == some "." then
    operator "."
    let property ← propertyWord
    return { node := branch "member_expression" [name, property], form := { target := true } }
  let args ← arguments r
  return plain (branch "call_expression" [withRole "function" name, withRole "arguments" args])

def constants : List String := ["this", "super", "true", "false", "null"]

def prefixWords : List String := ["typeof", "void", "delete"]

def prefixSigns : List String := ["++", "--", "!", "~", "+", "-"]

def assignments : List String :=
  ["=", "+=", "-=", "*=", "/=", "%=", "^=", "&=", "|=", ">>=", ">>>=", "<<=", "**=", "&&=",
   "||=", "??="]

def binaries : List String :=
  ["||", "&&", "??", "|", "^", "&", "==", "===", "!=", "!==", "<", ">", "<=", ">=", "<<", ">>",
   ">>>", "+", "-", "*", "/", "%", "**"]

def property : Parse Node := propertyWord <|> privateName

def memberOf (e property : Node) : Expr :=
  targetOf (branch "member_expression" [withRole "object" e, withRole "property" property])

def subscriptOf (r : Rules) (e : Node) : Parse Expr := do
  mark "["
  let index ← sequence r {}
  mark "]"
  return targetOf (branch "subscript_expression" [withRole "object" e, withRole "index" index])

def step (r : Rules) (calls : Bool) (e : Expr) : Parse Expr := do
  if !e.form.value then failure
  match ← nextOperator with
  | some "." => do
      operator "."
      return memberOf e.node (← property)
  | some "?." => do
      operator "?."
      (do return callOf e.node (← arguments r)) <|> subscriptOf r e.node
        <|> (do return memberOf e.node (← property))
  | some "[" => subscriptOf r e.node
  | some "(" => if calls then return callOf e.node (← arguments r) else failure
  | some "\x60" => do
      gap
      return callOf e.node (← template r)
  | _ => failure

def stepOrCount (r : Rules) (m : Mode) (e : Expr) : Parse Expr :=
  step r true e <|> do
    if !e.form.value then failure
    if m.open_ && (← endsHere false) then failure
    operator "++" <|> operator "--"
    return plain (branch "update_expression" [e.node])

def walkFrom (next : Expr → Parse Expr) : Nat → Expr → Parse Expr
  | 0, e => pure e
  | fuel + 1, e => do
      match ← orNothing (next e) with
      | some e => walkFrom next fuel e
      | none => return e

def steps (next : Expr → Parse Expr) (e : Expr) : Parse Expr := do
  walkFrom next ((← place).left + 1) e

def assigned (r : Rules) (m : Mode) (e : Expr) : Parse Expr := do
  match ← nextOperator with
  | some o =>
      let parenthesized := e.node.kind == "parenthesized_expression"
      let pattern := e.node.kind == "object" || e.node.kind == "array"
      if !assignments.contains o || !(e.form.target || parenthesized) then failure
      if o != "=" && pattern then failure
      operator o
      let v ← value r m
      return { node := branch (if o == "=" then "assignment_expression"
        else "augmented_assignment_expression")
                 [withRole "left" e.node, withRole "right" v]
               form := { withDefault := o == "=" && e.form.target } }
  | none => failure

end Expression

end CodeSurvey.Script
