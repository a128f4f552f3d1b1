import CodeSurvey.Outline.Basic
import CodeSurvey.Outline.Pattern

namespace CodeSurvey.Outline.Statement

open Expression

abbrev Items := List OutlineItem

structure Parts where
  rules : Rules
  block : Parse Items

def lineEnd : Parse Unit := do
  let _ ← next (·.kind == .lineEnd)

def commaList (p : Parse Unit) : Parse Unit := do
  p
  let _ ← many do
    sign ","
    p

def augmentSigns : List String :=
  ["+=", "-=", "*=", "/=", "//=", "%=", "@=", "&=", "|=", "^=", "<<=", ">>=", "**="]

def assigned (r : Rules) : Parse Unit :=
  yielded r <|> do
    let _ ← values r

def chain (r : Rules) : List Token → Shape → Parse Unit
  | [], _ => failure
  | _ :: limit, left => do
      if !left.target then failure
      sign "="
      if ← isNext (isWord "yield") then yielded r
      else
        let right ← values r
        if ← isNext (isSign "=") then chain r limit right

def byValue (r : Rules) : Parse Unit := do
  let left ← values r
  if ← isNext (isSign "=") then chain r (← get) left
  else if ← isNext (isSign ":") then
    if !left.single then failure
    sign ":"
    let _ ← r.expression
    let _ ← orNothing do
      sign "="
      assigned r
  else
    match ← orNothing (oneOf augmentSigns) with
    | some _ => if left.single then assigned r else failure
    | none => return

def renamed : Parse Unit := do
  let _ ← orNothing do
    keyword "as"
    name

def dotted : Parse Unit := do
  let _ ← name
  let _ ← many do
    sign "."
    name

def importedName : Parse Unit := do
  let _ ← name
  renamed

def importing : Parse Unit := do
  keyword "import"
  commaList do
    dotted
    renamed

def importingFrom : Parse Unit := do
  keyword "from"
  let dots ← many (oneOf [".", "..."])
  if dots.isEmpty then dotted
  else
    let _ ← orNothing dotted
  keyword "import"
  firstOf [sign "*",
    (do
      sign "("
      let _ ← separated importedName
      sign ")"),
    commaList importedName]

def erased (r : Rules) : Parse Unit := do
  keyword "del"
  let _ ← separated do
    if !(← r.primary).erasable then failure

def raised (r : Rules) : Parse Unit := do
  keyword "raise"
  let _ ← orNothing do
    let _ ← r.expression
    orNothing do
      keyword "from"
      r.expression

def asserted (r : Rules) : Parse Unit := do
  keyword "assert"
  let _ ← r.expression
  let _ ← orNothing do
    sign ","
    r.expression

def declared (word : String) : Parse Unit := do
  keyword word
  commaList do
    let _ ← name

def simple (r : Rules) : Parse Unit :=
  firstOf [keyword "pass", keyword "break", keyword "continue",
    (do
      keyword "return"
      let _ ← orNothing (values r)),
    importing, importingFrom, erased r, raised r, asserted r, declared "global", declared "nonlocal",
    yielded r, byValue r]

def simpleLine (r : Rules) : Parse Unit := do
  simple r
  let _ ← many do
    sign ";"
    simple r
  let _ ← orNothing (sign ";")
  lineEnd

def blockItem (body : Items) : OutlineItem := { kind := .block, body }

def blockOf (r : Rules) (statements : Parse Items) : Parse Items :=
  (do
    lineEnd
    let _ ← next (·.kind == .indent)
    let items ← statements
    let _ ← next (·.kind == .dedent)
    return items) <|> do
  simpleLine r
  return []

def afterColon (p : Parts) : Parse Items := do
  sign ":"
  p.block

def blockAfter (p : Parts) (word : String) : Parse (Option Items) :=
  orNothing do
    keyword word
    afterColon p

def otherwise (p : Parts) : Parse Items := do
  return (← blockAfter p "else").getD []

def branches (p : Parts) : List Token → Parse Items
  | [] => failure
  | _ :: limit => do
      let _ ← named p.rules
      let body ← afterColon p
      let others ← (do keyword "elif"; branches p limit) <|> otherwise p
      return [blockItem (body ++ others)]

def conditional (p : Parts) : Parse Items := do
  keyword "if"
  branches p (← get)

def whileLoop (p : Parts) : Parse Items := do
  keyword "while"
  let _ ← named p.rules
  let body ← afterColon p
  return [blockItem (body ++ (← otherwise p))]

def forLoop (p : Parts) : Parse Items := do
  keyword "for"
  targets p.rules.primary
  keyword "in"
  let _ ← values p.rules
  let body ← afterColon p
  return [blockItem (body ++ (← otherwise p))]

def withItem (r : Rules) : Parse Unit := do
  let _ ← r.expression
  let _ ← orNothing do
    keyword "as"
    target r.primary

def withItems (r : Rules) : Parse Unit :=
  (do
    sign "("
    let _ ← separated (withItem r)
    sign ")"
    if !(← isNext (isSign ":")) then failure) <|> commaList (withItem r)

def withBlock (p : Parts) : Parse Items := do
  keyword "with"
  withItems p.rules
  return [blockItem (← afterColon p)]

def handler (p : Parts) (group : Bool) : Parse OutlineItem := do
  keyword "except"
  if group then
    sign "*"
    let _ ← p.rules.expression
    renamed
  else
    let _ ← orNothing do
      let _ ← p.rules.expression
      renamed
  return blockItem (← afterColon p)

def guarded (p : Parts) : Parse Items := do
  keyword "try"
  let body ← afterColon p
  let handlers ← firstOf [many1 (handler p false), many1 (handler p true), pure []]
  let others ← if handlers.isEmpty then pure [] else otherwise p
  let last ← blockAfter p "finally"
  if handlers.isEmpty && last.isNone then failure
  return [blockItem (body ++ handlers ++ others ++ last.getD [])]

def subject (r : Rules) : Parse Unit := do
  let (items, comma) ← separated (spreadNamed r)
  if items.length = 1 && !comma && items.any (·.starred) then failure

def matchCase (p : Parts) : Parse OutlineItem := do
  let _ ← next (isWord "case")
  Pattern.top p.rules
  let _ ← orNothing do
    keyword "if"
    named p.rules
  return blockItem (← afterColon p)

def matched (p : Parts) : Parse Items := do
  let _ ← next (isWord "match")
  subject p.rules
  sign ":"
  lineEnd
  let _ ← next (·.kind == .indent)
  let cases ← many1 (matchCase p)
  let _ ← next (·.kind == .dedent)
  return [blockItem cases]

def functionRest (p : Parts) (kind : OutlineKind) (line : Nat) : Parse Items := do
  keyword "def"
  let named ← name
  sign "("
  parameters p.rules ⟨true, ")"⟩
  sign ")"
  let _ ← orNothing do
    sign "->"
    p.rules.expression
  return [{ kind, name := named.text, line, body := ← afterColon p }]

def function (p : Parts) : Parse Items := do
  let line := ((← get).head?.map (·.line)).getD 1
  match ← orNothing (keyword "async") with
  | some _ => functionRest p .asyncFunction line
  | none => functionRest p .function line

def classDefinition (p : Parts) : Parse Items := do
  let first ← next (isWord "class")
  let named ← name
  let _ ← orNothing do
    sign "("
    arguments p.rules false
  return [{ kind := .classDef, name := named.text, line := first.line, body := ← afterColon p }]

def definition (p : Parts) : Parse Items :=
  function p <|> classDefinition p

def decorated (p : Parts) : Parse Items := do
  let _ ← many1 do
    sign "@"
    let _ ← named p.rules
    lineEnd
  definition p

def asynchronous (p : Parts) : Parse Items := do
  keyword "async"
  forLoop p <|> withBlock p

def statement (p : Parts) : Parse Items :=
  firstOf [definition p, decorated p, conditional p, whileLoop p, forLoop p, withBlock p, guarded p,
    asynchronous p, matched p,
    (do
      simpleLine p.rules
      return [])]

def statementsAt (r : Rules) : List Token → Parse Items
  | [] => failure
  | _ :: limit => fun ts =>
      (many1 (statement { rules := r, block := blockOf r (statementsAt r limit) })).map
        List.flatten ts

def statements (r : Rules) : Parse Items := do
  statementsAt r (← get)

end CodeSurvey.Outline.Statement
