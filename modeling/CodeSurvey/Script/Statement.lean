import CodeSurvey.Script.Operand

namespace CodeSurvey.Script

structure StatementRules extends Rules where
  statement : Bool → Parse Node

namespace Statement

open Expression

def listFrom (statement : Bool → Parse Node) : Nat → Bool → Cursor → List Node × Cursor
  | 0, _, c => ([], c)
  | fuel + 1, markup, c =>
      match statement markup c with
      | some (n, next) =>
          if next.left < c.left then
            let closed := (c.rest.drop (c.left - next.left - 1)).head? == some '\x7d'
            let (others, last) := listFrom statement fuel (!closed) next
            (n :: others, last)
          else ([], c)
      | none => ([], c)

def list (r : StatementRules) : Parse (List Node) := fun c =>
  some (listFrom r.statement (c.left + 1) true c)

def block (r : StatementRules) : Parse Node := do
  mark "\x7b"
  let inner ← list r
  mark "\x7d"
  return branch "statement_block" inner

def bindingTarget (r : StatementRules) : Parse Node :=
  identifier <|> do
    gap
    let start ← place
    let e ← if ← startsWith "\x7b" then object r.toRules else array r.toRules
    if !e.form.target then failure
    return { e.node with kind := e.node.kind ++ "_pattern", text := some (← textSince start) }

def declarator (r : StatementRules) : Parse (Node × Bool) := do
  let target ← bindingTarget r
  let v ← orNothing do
    operator "="
    value r.toRules { open_ := true }
  return (branch "variable_declarator"
    (withRole "name" target :: (v.map (withRole "value")).toList), v.isSome)

def declarators (r : StatementRules) (kind : String) : Parse Node := do
  let first ← declarator r
  let others ← many do
    mark ","
    declarator r
  let all := first :: others
  semicolon (!(all.getLast?.any Prod.snd))
  return branch kind (all.map Prod.fst)

def bindings (r : StatementRules) : Parse Node :=
  (do
    keyword "var"
    declarators r "variable_declaration") <|> (do
    keyword "let" <|> keyword "const"
    declarators r "lexical_declaration")

def function (r : StatementRules) : Parse Node := do
  let _ ← orNothing (keyword "async")
  keyword "function"
  functionAfter r.toRules "function_declaration" "generator_function_declaration" true

def classWith (r : StatementRules) (decorators : List Node) : Parse Node := do
  keyword "class"
  classAfter r.toRules "class_declaration" true decorators

def declaration (r : StatementRules) : Parse Node :=
  bindings r <|> function r <|> do
    let decorators ← many (decorator r.toRules)
    classWith r decorators

def moduleName : Parse Node :=
  identifier <|> string <|> do
    keyword "default"
    return { leaf "default" "default" with named := false }

def braceList (kind : String) (item : Parse Node) : Parse Node := do
  mark "\x7b"
  let items ← many do
    let n ← item
    let comma ← orNothing (mark ",")
    return (n, comma.isSome)
  mark "\x7d"
  if items.dropLast.all Prod.snd then return branch kind (items.map Prod.fst) else failure

def exportSpecifier : Parse Node := do
  let name ← moduleName
  let alias? ← orNothing do
    keyword "as"
    moduleName
  return branch "export_specifier" (withRole "name" name :: (alias?.map (withRole "alias")).toList)

def importSpecifier : Parse Node :=
  (do
    let name ← moduleName
    keyword "as"
    return branch "import_specifier" [withRole "name" name, withRole "alias" (← identifier)]) <|>
  (do return branch "import_specifier" [withRole "name" (← identifier)])

def star : Node := { kind := "*", named := false }

def source : Parse Node := do
  keyword "from"
  return withRole "source" (← string)

def namespaceImport : Parse Node := do
  mark "*"
  keyword "as"
  return branch "namespace_import" [star, ← identifier]

def importClause : Parse Node := do
  let several := namespaceImport <|> braceList "named_imports" importSpecifier
  let parts ← (do return [← several]) <|> do
    let name ← identifier
    let more ← orNothing do
      mark ","
      several
    return name :: more.toList
  return branch "import_clause" parts

def attributes (r : StatementRules) : Parse Node := do
  keyword "with"
  gap
  let e ← object r.toRules
  if e.form.value then return branch "import_attribute" [e.node] else failure

def importStatement (r : StatementRules) : Parse Node := do
  keyword "import"
  let parts ← (do
      let clause ← importClause
      return [clause, ← source]) <|> (do return [withRole "source" (← string)])
  let more ← if ← endsHere true then pure none else orNothing (attributes r)
  semicolon true
  return branch "import_statement" (parts ++ more.toList)

def namespaceExport : Parse Node := do
  mark "*"
  keyword "as"
  return branch "namespace_export" [star, ← moduleName]

def exportParts : Parse (List Node) :=
  (do return [← namespaceExport, ← source]) <|>
  (do
    mark "*"
    return [star, ← source]) <|>
  (do
    let clause ← braceList "export_clause" exportSpecifier
    if ← endsHere true then return [clause]
    return clause :: (← orNothing source).toList)

def defaultExport (r : StatementRules) : Parse (List Node) := do
  keyword "default"
  let mark : Node := { kind := "default", named := false }
  match ← orNothing (declaration r) with
  | some d => return [mark, withRole "declaration" d]
  | none =>
      let v ← value r.toRules { open_ := true }
      semicolon false
      return [mark, withRole "value" v]

def exportStatement (r : StatementRules) (decorators : List Node) : Parse Node := do
  keyword "export"
  let parts ← (do
      if !decorators.isEmpty then failure
      let parts ← exportParts
      semicolon true
      return parts) <|> defaultExport r <|> (do return [withRole "declaration" (← declaration r)])
  return branch "export_statement" (decorators ++ parts)

def condition (r : StatementRules) : Parse Node := do
  mark "("
  let e ← sequence r.toRules {}
  mark ")"
  return branch "parenthesized_expression" [e]

def ifStatement (r : StatementRules) : Parse Node := do
  keyword "if"
  let test ← condition r
  let first ← r.statement true
  let second ← orNothing do
    keyword "else"
    r.statement true
  return branch "if_statement" (test :: first :: second.toList)

def switchCase (r : StatementRules) : Parse Node :=
  (do
    keyword "case"
    let v ← sequence r.toRules {}
    mark ":"
    return branch "switch_case" (v :: (← list r))) <|>
  (do
    keyword "default"
    mark ":"
    return branch "switch_default" (← list r))

def switchStatement (r : StatementRules) : Parse Node := do
  keyword "switch"
  let test ← condition r
  mark "\x7b"
  let cases ← many (switchCase r)
  mark "\x7d"
  return branch "switch_statement" (test :: cases)

def countingHead (r : StatementRules) : Parse (List Node) := do
  mark "("
  let start ← (do
      mark ";"
      return []) <|> (do return [← bindings r]) <|> (do
      let e ← sequence r.toRules {}
      mark ";"
      return [e])
  let test ← orNothing (sequence r.toRules {})
  mark ";"
  let next ← orNothing (sequence r.toRules {})
  mark ")"
  return start ++ test.toList ++ next.toList

def partTarget (r : StatementRules) : Parse (List Node) :=
  (do
    keyword "var"
    let target ← bindingTarget r
    let v ← orNothing do
      operator "="
      value r.toRules { withoutIn := true }
    return target :: v.toList) <|>
  (do
    keyword "let" <|> keyword "const"
    return [← bindingTarget r]) <|>
  (do
    let e ← Operand.leading r.toRules {} (← Operand.budget)
    let e ← steps (step r.toRules true) e
    if e.form.target || e.node.kind == "parenthesized_expression" then return [e.node] else failure)

def partsHead (r : StatementRules) : Parse (List Node) := do
  mark "("
  let target ← partTarget r
  keyword "of" <|> keyword "in"
  let e ← sequence r.toRules {}
  mark ")"
  return target ++ [e]

def forStatement (r : StatementRules) : Parse Node := do
  keyword "for"
  let wait ← orNothing (keyword "await")
  let head ← if wait.isSome then partsHead r else countingHead r <|> partsHead r
  return branch "for_statement" (head ++ [← r.statement true])

def whileStatement (r : StatementRules) (word : String) : Parse Node := do
  keyword word
  let test ← condition r
  return branch (word ++ "_statement") [test, ← r.statement true]

def doStatement (r : StatementRules) : Parse Node := do
  keyword "do"
  let body ← r.statement true
  keyword "while"
  let test ← condition r
  let _ ← orNothing (semicolon true)
  return branch "do_statement" [body, test]

def caught (r : StatementRules) : Parse Node := do
  keyword "catch"
  let target ← orNothing do
    mark "("
    let t ← bindingTarget r
    mark ")"
    return t
  return branch "catch_clause" (target.toList ++ [← block r])

def tryStatement (r : StatementRules) : Parse Node := do
  keyword "try"
  let body ← block r
  let handler ← orNothing (caught r)
  let final ← orNothing do
    keyword "finally"
    block r
  return branch "try_statement" (body :: handler.toList ++ final.toList)

def jump (word : String) : Parse Node := do
  keyword word
  if !(← endsHere true) then
    let _ ← orNothing identifier
  semicolon true
  return branch (word ++ "_statement") []

def returnStatement (r : StatementRules) : Parse Node := do
  keyword "return"
  let v ← if ← endsHere true then pure none else orNothing (sequence r.toRules { open_ := true })
  semicolon v.isNone
  return branch "return_statement" v.toList

def throwStatement (r : StatementRules) : Parse Node := do
  keyword "throw"
  let v ← sequence r.toRules { open_ := true }
  semicolon false
  return branch "throw_statement" [v]

def debuggerStatement : Parse Node := do
  keyword "debugger"
  semicolon true
  return branch "debugger_statement" []

def labeled (r : StatementRules) : Parse Node := do
  let name ← identifier
  mark ":"
  return branch "labeled_statement" [name, ← r.statement true]

def expressionStatement (r : StatementRules) : Parse Node := do
  let e ← sequence r.toRules { open_ := true }
  semicolon false
  return branch "expression_statement" [e]

def staticBlock (r : StatementRules) : Parse Node := do
  keyword "static"
  return branch "class_static_block" [← block r]

def fieldDefinition (r : StatementRules) (isStatic : Bool) (decorators : List Node) :
    Parse Node := do
  if isStatic then keyword "static"
  let name ← propertyName r.toRules
  let v ← orNothing do
    operator "="
    value r.toRules { open_ := true }
  semicolon v.isNone
  return branch "field_definition" (decorators ++ name :: v.toList)

def classMember (r : StatementRules) : Parse (Option Node) :=
  (do
    mark ";"
    return none) <|>
  (some <$> staticBlock r) <|> (some <$> method r.toRules) <|> (do
    let decorators ← many (decorator r.toRules)
    some <$> (fieldDefinition r true decorators <|> fieldDefinition r false decorators))

def classBody (r : StatementRules) : Parse Node := do
  mark "\x7b"
  let members ← many (classMember r)
  mark "\x7d"
  return branch "class_body" (members.filterMap id)

def braced (r : StatementRules) : Parse Node := do
  if ← opensObject then block r <|> expressionStatement r
  else block r

def functionHead : Parse Unit := do
  let _ ← orNothing (keyword "async")
  keyword "function"
  let _ ← orNothing (mark "*")
  let _ ← identifier

def classHead : Parse Unit := do
  keyword "class"
  let _ ← identifier

def declaredIf (head : Parse Unit) (declared other : Parse Node) : Parse Node := do
  if ← ahead head then declared else other

def byWord (r : StatementRules) : List (String × Parse Node) := [
  ("if", ifStatement r), ("for", forStatement r), ("while", whileStatement r "while"),
  ("with", whileStatement r "with"), ("do", doStatement r), ("try", tryStatement r),
  ("switch", switchStatement r), ("break", jump "break"), ("continue", jump "continue"),
  ("return", returnStatement r), ("throw", throwStatement r), ("debugger", debuggerStatement),
  ("var", bindings r), ("const", bindings r),
  ("let", bindings r <|> labeled r <|> expressionStatement r),
  ("function", declaredIf functionHead (function r) (expressionStatement r)),
  ("async", declaredIf functionHead (function r) (labeled r <|> expressionStatement r)),
  ("class", declaredIf classHead (classWith r []) (expressionStatement r)),
  ("import", importStatement r <|> expressionStatement r),
  ("export", exportStatement r [] <|> expressionStatement r)]

def worded (r : StatementRules) (w : String) : Parse Node :=
  match (byWord r).lookup w with
  | some p => p
  | none => labeled r <|> expressionStatement r

def decorated (r : StatementRules) : Parse Node := do
  let decorators ← many (decorator r.toRules)
  if ← ahead (keyword "export") then exportStatement r decorators
  else classWith r decorators

def emptyStatement : Parse Node := do
  mark ";"
  return branch "empty_statement" []

def statement (r : StatementRules) (markup : Bool) : Parse Node := do
  let _ ← extras markup
  match ← peek with
  | none => failure
  | some c =>
      if c == '\x7b' then braced r
      else if c == ';' then emptyStatement
      else if c == '\x7d' then failure
      else if c == '@' then decorated r <|> expressionStatement r
      else do
        let start ← place
        match ← orNothing word with
        | some w => do
            set start
            worded r w
        | none => expressionStatement r

end Statement

end CodeSurvey.Script
