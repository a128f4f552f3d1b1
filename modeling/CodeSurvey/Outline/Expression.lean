import CodeSurvey.Outline.Quoted

namespace CodeSurvey.Outline

structure Shape where
  isName : Bool := false
  single : Bool := false
  target : Bool := false
  erasable : Bool := false
  starred : Bool := false

namespace Shape

def other : Shape := {}

def name : Shape := { isName := true, single := true, target := true, erasable := true }

def part : Shape := { single := true, target := true, erasable := true }

def grouped (s : Shape) : Shape :=
  { single := s.single, target := s.target && !s.starred, erasable := s.erasable }

def several (items : List Shape) : Shape :=
  { target := items.all (·.target), erasable := items.all (·.erasable) }

def withStar (s : Shape) : Shape :=
  { starred := true, target := s.target && !s.starred }

end Shape

abbrev Parse := StateT (List Token) Option

structure Rules where
  expression : Parse Shape
  choice : Parse Shape
  arithmetic : Parse Shape
  primary : Parse Shape
  reads : List Char → Bool

def keywords : List String :=
  ["False", "None", "True", "and", "as", "assert", "async", "await", "break", "class", "continue",
   "def", "del", "elif", "else", "except", "finally", "for", "from", "global", "if", "import", "in",
   "is", "lambda", "nonlocal", "not", "or", "pass", "raise", "return", "try", "while",
   "with", "yield"]

def next (p : Token → Bool) : Parse Token := fun ts =>
  match ts with
  | t :: rest => if p t then some (t, rest) else none
  | [] => none

def isSign (s : String) (t : Token) : Bool := t.kind == .sign && t.text == s

def isWord (s : String) (t : Token) : Bool := t.kind == .word && t.text == s

def isName (t : Token) : Bool := t.kind == .word && !keywords.contains t.text

def sign (s : String) : Parse Unit := do
  let _ ← next (isSign s)

def keyword (s : String) : Parse Unit := do
  let _ ← next (isWord s)

def name : Parse Token := next isName

def orNothing (p : Parse α) : Parse (Option α) := fun ts =>
  match p ts with
  | some (a, rest) => some (some a, rest)
  | none => some (none, ts)

def isNext (p : Token → Bool) : Parse Bool := fun ts =>
  some (ts.head?.any p, ts)

def repeatFrom (p : Parse α) : List Token → List Token → List α × List Token
  | [], ts => ([], ts)
  | _ :: limit, ts =>
      match p ts with
      | some (a, rest) =>
          let (others, last) := repeatFrom p limit rest
          (a :: others, last)
      | none => ([], ts)

def many (p : Parse α) : Parse (List α) := fun ts =>
  some (repeatFrom p ts ts)

def many1 (p : Parse α) : Parse (List α) := do
  let first ← p
  return first :: (← many p)

def firstOf (choices : List (Parse α)) : Parse α :=
  choices.foldr (fun p rest => p <|> rest) failure

def separated (p : Parse α) : Parse (List α × Bool) := do
  let first ← p
  let others ← many do
    sign ","
    p
  let last ← orNothing (sign ",")
  return (first :: others, last.isSome)

namespace Expression

def factorSigns : List String := ["+", "-", "~"]

def binarySigns : List String := ["+", "-", "*", "/", "//", "%", "@", "<<", ">>", "&", "|", "^"]

def comparisonSigns : List String := ["==", "!=", "<", "<=", ">", ">="]

def oneOf (signs : List String) : Parse Unit := do
  let _ ← next fun t => t.kind == .sign && signs.contains t.text

def comparison : Parse Unit :=
  firstOf [oneOf comparisonSigns, keyword "in",
    do keyword "not"; keyword "in",
    do
      keyword "is"
      let _ ← orNothing (keyword "not")]

def withValue (r : Rules) (e : Shape) : Parse Shape := do
  if !e.isName then return e
  match ← orNothing (sign ":=") with
  | some _ => do
      let _ ← r.expression
      return Shape.other
  | none => return e

def named (r : Rules) : Parse Shape := do
  withValue r (← r.expression)

def leading : Parse Bool := do
  let signs ← many (oneOf factorSigns)
  let wait ← orNothing (keyword "await")
  return !signs.isEmpty || wait.isSome

def operand (primary : Parse Shape) : Parse Shape := do
  let led ← leading
  let base ← primary
  let powers ← many do
    sign "**"
    let _ ← leading
    primary
  return if led || !powers.isEmpty then Shape.other else base

def arithmeticOf (primary : Parse Shape) : Parse Shape := do
  let first ← operand primary
  let others ← many do
    oneOf binarySigns
    operand primary
  return if others.isEmpty then first else Shape.other

def comparedOf (primary : Parse Shape) : Parse Shape := do
  let nots ← many (keyword "not")
  let first ← arithmeticOf primary
  let others ← many do
    comparison
    arithmeticOf primary
  return if nots.isEmpty && others.isEmpty then first else Shape.other

def choiceOf (primary : Parse Shape) : Parse Shape := do
  let first ← comparedOf primary
  let others ← many do
    keyword "and" <|> keyword "or"
    comparedOf primary
  return if others.isEmpty then first else Shape.other

def starredWith (p : Parse Shape) : Parse Shape := do
  sign "*"
  return (← p).withStar

def severalOf (p : Parse Shape) : Parse Shape := do
  let (items, comma) ← separated p
  match items, comma with
  | [one], false => return one
  | items, _ => return Shape.several items

def textsHold (r : Rules) (texts : List Quoted) : Bool :=
  (texts.all (·.octets) || texts.all (!·.octets)) && texts.all (Quoted.holds r.reads)

def texts (r : Rules) : Parse Unit := do
  let ts ← many1 (next (·.kind == .text))
  if textsHold r (ts.map fun t => Quoted.ofToken t.text) then return else failure

def number : Parse Token := next (·.kind == .number)

structure ParameterStyle where
  annotated : Bool
  closing : String

structure ParameterState where
  names : Nat := 0
  slash : Bool := false
  defaults : Bool := false
  star : Bool := false
  waiting : Bool := false
  finished : Bool := false

def annotation (r : Rules) (style : ParameterStyle) (starred : Bool) : Parse Unit := do
  if style.annotated then
    let _ ← orNothing do
      sign ":"
      if starred then
        let _ ← orNothing (sign "*")
      r.expression

def parameter (r : Rules) (style : ParameterStyle) (s : ParameterState) : Parse ParameterState :=
  if s.finished then failure
  else firstOf [
    (do
      sign "**"
      if s.waiting then failure
      let _ ← name
      annotation r style false
      return { s with finished := true }),
    (do
      sign "/"
      if s.names = 0 || s.slash || s.star then failure
      return { s with slash := true }),
    (do
      sign "*"
      if s.star then failure
      match ← orNothing name with
      | some _ => do
          annotation r style true
          return { s with star := true }
      | none => return { s with star := true, waiting := true }),
    (do
      let _ ← name
      annotation r style false
      let given ← orNothing do
        sign "="
        r.expression
      if !s.star && s.defaults && given.isNone then failure
      return { s with
        names := s.names + 1
        defaults := s.defaults || (given.isSome && !s.star)
        waiting := false })]

def parametersFrom (r : Rules) (style : ParameterStyle) :
    List Token → ParameterState → Parse ParameterState
  | [], _ => failure
  | _ :: limit, s => do
      if ← isNext (isSign style.closing) then return s
      let s ← parameter r style s
      if ← isNext (isSign style.closing) then return s
      sign ","
      parametersFrom r style limit s

def parameters (r : Rules) (style : ParameterStyle) : Parse Unit := do
  let s ← parametersFrom r style (← get) {}
  if s.waiting then failure

def target (primary : Parse Shape) : Parse Unit := do
  let _ ← orNothing (sign "*")
  if !(← primary).target then failure

def targets (primary : Parse Shape) : Parse Unit := do
  let _ ← separated (target primary)

def loops (r : Rules) : Parse Unit := do
  let _ ← many1 do
    let _ ← orNothing (keyword "async")
    keyword "for"
    targets r.primary
    keyword "in"
    let _ ← r.choice
    many do
      keyword "if"
      r.choice

def startsLoop : Parse Bool :=
  isNext fun t => isWord "for" t || isWord "async" t

inductive ArgumentKind where
  | plain
  | made
  | spread
  | keyed
  | spreadKeys
  deriving DecidableEq

def argument (r : Rules) : Parse ArgumentKind :=
  firstOf [
    (do
      sign "**"
      let _ ← r.expression
      return .spreadKeys),
    (do
      sign "*"
      let _ ← r.expression
      return .spread),
    (do
      let _ ← name
      sign "="
      let _ ← r.expression
      return .keyed),
    (do
      let _ ← named r
      if ← startsLoop then
        loops r
        return .made
      return .plain)]

def inOrder : Bool → Bool → List ArgumentKind → Bool
  | _, _, [] => true
  | keyed, keys, a :: rest =>
      match a with
      | .plain => !keyed && !keys && inOrder keyed keys rest
      | .made => false
      | .spread => !keys && inOrder keyed keys rest
      | .keyed => inOrder true keys rest
      | .spreadKeys => inOrder keyed true rest

def arguments (r : Rules) (call : Bool) : Parse Unit := do
  let given ← orNothing (separated (argument r))
  sign ")"
  match given with
  | none => return
  | some ([.made], comma) => if call && !comma then return else failure
  | some (all, _) => if inOrder false false all then return else failure

def range (r : Rules) : Parse Unit := do
  sign ":"
  let _ ← orNothing r.expression
  let _ ← orNothing do
    sign ":"
    orNothing r.expression

def slice (r : Rules) : Parse Unit := do
  let first ← orNothing r.expression
  if ← isNext (isSign ":") then range r
  else match first with
    | some e => do
        let _ ← withValue r e
    | none => failure

def slices (r : Rules) : Parse Unit := do
  let _ ← separated (slice r <|> do
    sign "*"
    let _ ← r.expression)

def spreadNamed (r : Rules) : Parse Shape :=
  starredWith r.arithmetic <|> named r

def parenthesized (r : Rules) : Parse Shape := do
  sign "("
  firstOf [
    (do
      sign ")"
      return Shape.several []),
    (do
      keyword "yield"
      let _ ← orNothing ((do keyword "from"; r.expression) <|> severalOf
        (starredWith r.arithmetic <|> r.expression))
      sign ")"
      return Shape.other),
    (do
      let first ← spreadNamed r
      firstOf [
        (do
          sign ")"
          if first.starred then failure
          return first.grouped),
        (do
          if first.starred then failure
          loops r
          sign ")"
          return Shape.other),
        (do
          sign ","
          let more ← orNothing (separated (spreadNamed r))
          sign ")"
          return Shape.several (first :: (more.map Prod.fst).getD []))])]

def listed (r : Rules) : Parse Shape := do
  sign "["
  firstOf [
    (do
      sign "]"
      return Shape.several []),
    (do
      let first ← spreadNamed r
      firstOf [
        (do
          if first.starred then failure
          loops r
          sign "]"
          return Shape.other),
        (do
          let more ← orNothing do
            sign ","
            orNothing (separated (spreadNamed r))
          sign "]"
          return Shape.several (first :: ((more.bind id).map Prod.fst).getD []))])]

def keyedPair (r : Rules) : Parse Unit := do
  let _ ← r.expression
  sign ":"
  let _ ← r.expression

def morePairs (r : Rules) : Parse Unit := do
  let _ ← orNothing do
    sign ","
    orNothing (separated ((do sign "**"; let _ ← r.arithmetic) <|> keyedPair r))
  sign "\x7d"

def moreItems (r : Rules) : Parse Unit := do
  let _ ← orNothing do
    sign ","
    orNothing (separated (spreadNamed r))
  sign "\x7d"

def afterFirst (r : Rules) (first : Shape) : Parse Unit := do
  if ← isNext (isSign ":") then
    sign ":"
    let _ ← r.expression
    if ← startsLoop then
      loops r
      sign "\x7d"
    else morePairs r
  else
    let _ ← withValue r first
    if ← startsLoop then
      loops r
      sign "\x7d"
    else moreItems r

def braced (r : Rules) : Parse Shape := do
  sign "\x7b"
  if ← isNext (isSign "\x7d") then sign "\x7d"
  else if ← isNext (isSign "**") then
    sign "**"
    let _ ← r.arithmetic
    morePairs r
  else if ← isNext (isSign "*") then
    let _ ← starredWith r.arithmetic
    moreItems r
  else do
    let first ← r.expression
    afterFirst r first
  return Shape.other

def constants : List String := ["True", "False", "None"]

def atom (r : Rules) : Parse Shape := fun ts =>
  match ts with
  | [] => none
  | t :: rest =>
      match t.kind with
      | .word =>
          if constants.contains t.text then some (Shape.other, rest)
          else if isName t then some (Shape.name, rest)
          else none
      | .number => some (Shape.other, rest)
      | .text => (texts r ts).map fun (_, rest) => (Shape.other, rest)
      | .sign =>
          if t.text == "(" then parenthesized r ts
          else if t.text == "[" then listed r ts
          else if t.text == "\x7b" then braced r ts
          else if t.text == "..." then some (Shape.other, rest)
          else none
      | _ => none

def trailer (r : Rules) : Parse Shape :=
  firstOf [
    (do
      sign "."
      let _ ← name
      return Shape.part),
    (do
      sign "["
      slices r
      sign "]"
      return Shape.part),
    (do
      sign "("
      arguments r true
      return Shape.other)]

def primary (r : Rules) : Parse Shape := do
  let first ← atom r
  let more ← many (trailer r)
  return more.getLastD first

def arithmetic (r : Rules) : Parse Shape := arithmeticOf (primary r)

def choice (r : Rules) : Parse Shape := choiceOf (primary r)

def lambda (r : Rules) : Parse Shape := do
  keyword "lambda"
  parameters r ⟨false, ":"⟩
  sign ":"
  let _ ← r.expression
  return Shape.other

def single (r : Rules) : Parse Shape :=
  lambda r <|> do
    let first ← choice r
    let branch ← orNothing do
      keyword "if"
      let _ ← choice r
      keyword "else"
      r.expression
    return if branch.isSome then Shape.other else first

def values (r : Rules) : Parse Shape :=
  severalOf (starredWith (arithmetic r) <|> single r)

def yielded (r : Rules) : Parse Unit := do
  keyword "yield"
  let _ ← orNothing ((do keyword "from"; r.expression) <|> values r)

end Expression

end CodeSurvey.Outline
