import CodeSurvey.Script.Expression

namespace CodeSurvey.Script.Markup

def isNameStart (c : Char) : Bool := c.isAlpha || c == '_' || c == '$'

def isNamePart (c : Char) : Bool := isNameStart c || c.isDigit || c == '-'

def tagWord : Parse Unit := do
  gap
  let cs := (← place).rest
  let n := (cs.takeWhile isNamePart).length
  if cs.head?.any isNameStart && 0 < n && !(cs.drop n).head?.any isWordPart then advance n
  else
    let _ ← identifier

def tagName : Parse Unit := do
  tagWord
  let dotted ← many do
    mark "."
    tagWord
  if dotted.isEmpty then
    let _ ← orNothing do
      mark ":"
      tagWord

def attributeName : Parse Unit := do
  tagWord
  let _ ← orNothing do
    mark ":"
    tagWord

def quotedText : Parse Node := do
  gap
  let start ← place
  match start.rest with
  | q :: rest =>
      if !isStringQuote q then failure
      let n := (rest.takeWhile (· != q)).length
      advance (n + 1)
      exactly (String.singleton q)
  | [] => failure
  return leaf "string" (← textSince start)

def braced (r : Rules) : Parse Node := do
  mark "\x7b"
  let inner ← orNothing ((do return branch "spread_element" [(← Expression.spread r).node])
    <|> Expression.sequence r {})
  mark "\x7d"
  return branch "jsx_expression" inner.toList

def attributeValue (r : Rules) (element : Parse Node) : Parse Node :=
  quotedText <|> braced r <|> do
    gap
    element

def tagAttribute (r : Rules) (element : Parse Node) : Parse Node :=
  braced r <|> do
    attributeName
    let v ← orNothing do
      mark "="
      attributeValue r element
    return branch "jsx_attribute" v.toList

def stopsText (c : Char) : Bool :=
  c == '<' || c == '>' || c == '\x7b' || c == '\x7d' || c == '&'

def holdsText : Bool → List Char → Bool
  | _, [] => false
  | atLine, c :: rest =>
      if c == '\n' then holdsText true rest
      else if atLine && isSpace c then holdsText true rest
      else true

def text : Parse Unit := do
  let run := (← place).rest.takeWhile fun c => !stopsText c
  if holdsText false run then advance run.length else failure

def referenceLength (cs : List Char) : Nat :=
  match cs with
  | '#' :: x :: rest =>
      if x == 'x' || x == 'X' then (rest.takeWhile isHex).length + 2
      else ((x :: rest).takeWhile Char.isDigit).length + 1
  | cs => (cs.takeWhile Char.isAlpha).length

def reference : Parse Unit := do
  gap
  exactly "&"
  let n := referenceLength (← place).rest
  if n = 0 then failure
  advance n
  exactly ";"

def child (r : Rules) (element : Parse Node) : Parse (Option Node) :=
  (do text; return none) <|> (do reference; return none) <|> (some <$> braced r) <|> do
    gap
    if ← startsWith "</" then failure
    some <$> element

def closing : Parse Unit := do
  mark "</"
  let _ ← orNothing tagName
  mark ">"

def element (r : Rules) : Nat → Parse Node
  | 0 => failure
  | fuel + 1 => do
      exactly "<"
      let name ← orNothing tagName
      let attributes ← if name.isNone then pure [] else many (tagAttribute r (element r fuel))
      if name.isSome && (← ahead (mark "/>")) then
        mark "/>"
        return branch "jsx_self_closing_element" attributes
      mark ">"
      let children ← many (child r (element r fuel))
      closing
      return branch "jsx_element" (attributes ++ children.filterMap id)

end CodeSurvey.Script.Markup
