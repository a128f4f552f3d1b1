import CodeSurvey.Outline.Expression

namespace CodeSurvey.Outline.Pattern

open Expression

def isImaginary (t : Token) : Bool :=
  t.text.toList.getLast?.any fun c => c == 'j' || c == 'J'

def notNext (signs : List String) : Parse Unit := do
  if ← isNext fun t => t.kind == .sign && signs.contains t.text then failure

def signedNumber : Parse Unit := do
  let _ ← orNothing (sign "-")
  let first ← number
  match ← orNothing (oneOf ["+", "-"]) with
  | some _ => do
      let second ← number
      if isImaginary first || !isImaginary second then failure
  | none => return

def constant (r : Rules) : Parse Unit :=
  firstOf [signedNumber, texts r, keyword "None", keyword "True", keyword "False"]

def path : Parse Nat := do
  let _ ← name
  let more ← many do
    sign "."
    name
  return more.length

def captured : Parse Unit := do
  let t ← name
  if t.text == "_" then failure
  notNext [".", "(", "="]

def starred : Parse Unit := do
  sign "*"
  captured <|> do
    let _ ← name

def listOf (p : Parse α) : Parse (List α × Bool) := do
  return (← orNothing (separated p)).getD ([], false)

def itemsOf (p : Parse α) : Parse (List α) := do
  return (← listOf p).1

structure Rest where
  pattern : Parse Unit

def item (rest : Rest) : Parse Unit := starred <|> rest.pattern

def mappingItem (r : Rules) (rest : Rest) : Parse Bool :=
  (do
    sign "**"
    captured
    return true) <|> (do
    constant r <|> (do if (← path) = 0 then failure)
    sign ":"
    rest.pattern
    return false)

def mapping (r : Rules) (rest : Rest) : Parse Unit := do
  sign "\x7b"
  let items ← itemsOf (mappingItem r rest)
  if items.dropLast.any id then failure
  sign "\x7d"

def classItem (rest : Rest) : Parse Bool :=
  (do
    let _ ← name
    sign "="
    rest.pattern
    return true) <|> (do
    rest.pattern
    return false)

def classItems (rest : Rest) : Parse Unit := do
  sign "("
  let items ← itemsOf (classItem rest)
  if (items.dropWhile (!·)).any (!·) then failure
  sign ")"

def byName (rest : Rest) : Parse Unit := do
  let _ ← path
  if ← isNext (isSign "(") then classItems rest else notNext ["="]

def makesList (star : Bool) (items : List Unit × Bool) : Bool :=
  !star || items.1.length ≠ 1 || items.2

def closed (r : Rules) (rest : Rest) : Parse Unit :=
  firstOf [constant r, byName rest,
    (do
      sign "["
      let _ ← listOf (item rest)
      sign "]"),
    (do
      sign "("
      let star ← isNext (isSign "*")
      let items ← listOf (item rest)
      sign ")"
      if !makesList star items then failure),
    mapping r rest]

def whole (r : Rules) (rest : Rest) : Parse Unit := do
  closed r rest
  let _ ← many do
    sign "|"
    closed r rest
  let _ ← orNothing do
    keyword "as"
    captured

def patternAt (r : Rules) : List Token → Parse Unit
  | [] => failure
  | _ :: limit => fun ts => whole r ⟨patternAt r limit⟩ ts

def pattern (r : Rules) : Parse Unit := do
  patternAt r (← get)

def top (r : Rules) : Parse Unit := do
  let rest : Rest := ⟨pattern r⟩
  let star ← isNext (isSign "*")
  let items ← separated (item rest)
  if !makesList star items then failure

end CodeSurvey.Outline.Pattern
