import CodeSurvey.Script.Cursor

namespace CodeSurvey.Script

def wordSigns : List Char :=
  [':', ';', '\x60', '"', '\'', '@', '#', '.', ',', '|', '^', '&', '<', '=', '>', '+', '-',
   '*', '/', '\\', '%', '?', '!', '~', '(', ')', '[', ']', '\x7b', '\x7d']

def isWordPart (c : Char) : Bool :=
  32 < c.toNat && !wordSigns.contains c && !isBlank c

def isHex (c : Char) : Bool :=
  c.isDigit || ('a' ≤ c && c ≤ 'f') || ('A' ≤ c && c ≤ 'F')

def escapeLength : List Char → Option Nat
  | '\\' :: 'u' :: '{' :: rest =>
      let digits := (rest.takeWhile isHex).length
      if 0 < digits && (rest.drop digits).head? == some '\x7d' then some (digits + 4) else none
  | '\\' :: 'u' :: rest =>
      if (rest.take 4).length = 4 && (rest.take 4).all isHex then some 6 else none
  | _ => none

def wordLength : Nat → List Char → Nat
  | 0, _ => 0
  | fuel + 1, cs =>
      match escapeLength cs with
      | some n => n + wordLength fuel (cs.drop n)
      | none =>
          match cs with
          | c :: rest => if isWordPart c then wordLength fuel rest + 1 else 0
          | [] => 0

def word : Parse String := do
  let start ← place
  match start.rest.head? with
  | some c => if c.isDigit then failure
  | none => failure
  let n := wordLength (start.left + 1) start.rest
  if n = 0 then failure
  advance n
  textSince start

def reserved : List String :=
  ["break", "case", "catch", "class", "const", "continue", "debugger", "default", "delete",
   "do", "else", "export", "extends", "false", "finally", "for", "function", "if", "import", "in",
   "instanceof", "new", "null", "return", "super", "switch", "this", "throw", "true", "try",
   "typeof", "var", "void", "while", "with"]

def leaf (kind : String) (text : String) : Node := { kind, text := some text }

def identifier : Parse Node := do
  gap
  let w ← word
  if reserved.contains w then failure
  return leaf "identifier" w

def keyword (w : String) : Parse Unit := do
  gap
  if (← word) == w then return else failure

def privateName : Parse Node := do
  gap
  let start ← place
  exactly "#"
  let _ ← word
  return leaf "private_property_identifier" (← textSince start)

def digitsLength (p : Char → Bool) : List Char → Nat
  | '_' :: c :: rest => if p c then digitsLength p rest + 2 else 0
  | c :: rest => if p c then digitsLength p rest + 1 else 0
  | [] => 0

def leadingDigits (p : Char → Bool) (cs : List Char) : Nat :=
  if cs.head?.any p then digitsLength p cs else 0

def exponentLength : List Char → Nat
  | e :: rest =>
      if e == 'e' || e == 'E' then
        let sign := if rest.head? == some '+' || rest.head? == some '-' then 1 else 0
        let digits := leadingDigits Char.isDigit (rest.drop sign)
        if digits = 0 then 0 else digits + sign + 1
      else 0
  | [] => 0

def fractionLength : List Char → Nat
  | '.' :: rest => leadingDigits Char.isDigit rest + 1
  | _ => 0

def isOctalStyle : List Char → Bool
  | '0' :: c :: _ => c == '0' || c == '_'
  | _ => false

def decimalLength (cs : List Char) : Nat :=
  let whole := leadingDigits Char.isDigit cs
  let rest := cs.drop whole
  if whole = 0 then
    match cs with
    | '.' :: d :: _ =>
        if d.isDigit then
          let n := fractionLength cs
          n + exponentLength (cs.drop n)
        else 0
    | _ => 0
  else if rest.head? == some 'n' then whole + 1
  else if isOctalStyle cs then whole
  else
    let n := whole + fractionLength rest
    n + exponentLength (cs.drop n)

def basedLength (p : Char → Bool) (rest : List Char) : Nat :=
  let n := leadingDigits p rest
  if n = 0 then 0
  else if (rest.drop n).head? == some 'n' then n + 3 else n + 2

def numberLength : List Char → Nat
  | '0' :: b :: rest =>
      let n :=
        if b == 'x' || b == 'X' then basedLength isHex rest
        else if b == 'b' || b == 'B' then basedLength (fun c => c == '0' || c == '1') rest
        else if b == 'o' || b == 'O' then basedLength (fun c => '0' ≤ c && c ≤ '7') rest
        else 0
      if n = 0 then decimalLength ('0' :: b :: rest) else n
  | cs => decimalLength cs

def number : Parse Node := do
  gap
  let start ← place
  let n := numberLength start.rest
  if n = 0 then failure
  advance n
  return leaf "number" (← textSince start)

def afterEscape : List Char → Option (List Char)
  | 'x' :: rest =>
      if (rest.take 2).length = 2 && (rest.take 2).all isHex then some (rest.drop 2) else none
  | 'u' :: rest => (escapeLength ('\\' :: 'u' :: rest)).map fun n => rest.drop (n - 2)
  | a :: b :: rest =>
      if (a == '\r' || a == '?') && (b == '\n' || isSeparator b) then some rest
      else some (b :: rest)
  | [_] => some []
  | [] => none

def afterQuoted (quote : Char) : Nat → List Char → Option (List Char)
  | 0, _ => none
  | _, [] => none
  | fuel + 1, c :: rest =>
      if c == quote then some rest
      else if c == '\\' then (afterEscape rest).bind (afterQuoted quote fuel)
      else if c == '\n' || c == '\r' then none
      else afterQuoted quote fuel rest

def isStringQuote (c : Char) : Bool := c == '\'' || c == '"'

def string : Parse Node := do
  gap
  let start ← place
  match start.rest with
  | q :: rest =>
      if !isStringQuote q then failure
      match afterQuoted q (start.left + 1) rest with
      | some rest => set (Cursor.before rest)
      | none => failure
  | [] => failure
  return leaf "string" (← textSince start)

def afterClass : List Char → Option (List Char)
  | ']' :: rest => some rest
  | '\\' :: c :: rest => if c == '\n' then none else afterClass rest
  | c :: rest => if c == '\n' then none else afterClass rest
  | [] => none

def afterPattern : Nat → List Char → Option (List Char)
  | 0, _ => none
  | _, [] => none
  | _, '/' :: rest => some rest
  | fuel + 1, '[' :: rest => (afterClass rest).bind (afterPattern fuel)
  | fuel + 1, '\\' :: c :: rest => if c == '\n' then none else afterPattern fuel rest
  | fuel + 1, c :: rest => if c == '\n' then none else afterPattern fuel rest

def regex : Parse Node := do
  let start ← place
  match start.rest with
  | '/' :: c :: rest =>
      if c == '/' || c == '*' then failure
      match afterPattern (start.left + 1) (c :: rest) with
      | some rest => set (Cursor.before (rest.dropWhile fun c => 'a' ≤ c && c ≤ 'z'))
      | none => failure
  | _ => failure
  return leaf "regex" (← textSince start)

def operators : List String :=
  [">>>=", "===", "!==", "**=", "<<=", ">>=", ">>>", "&&=", "||=", "??=", "...", "=>", "==",
   "!=", "<=", ">=", "&&", "||", "??", "?.", "++", "--", "+=", "-=", "*=", "/=", "%=", "&=", "|=",
   "^=", "<<", ">>", "**", "=", "<", ">", "+", "-", "*", "/", "%", "&", "|", "^", "!", "~", "?",
   ":", ".", ",", ";", "(", ")", "[", "]", "\x7b", "\x7d", "@", "#", "\x60"]

def operatorOf (cs : List Char) : Option String :=
  match cs with
  | '?' :: '.' :: d :: _ => some (if d.isDigit then "?" else "?.")
  | _ => operators.find? fun o => o.toList.isPrefixOf cs

def nextOperator : Parse (Option String) := fun c =>
  some (operatorOf (skipFrom false (c.left + 1) c).2.rest, c)

def operator (o : String) : Parse Unit := do
  if (← nextOperator) != some o then failure
  gap
  advance o.length

end CodeSurvey.Script
