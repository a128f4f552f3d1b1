import CodeSurvey.Text.Letter
import CodeSurvey.Text.Utf8

namespace CodeSurvey.Outline

inductive TokenKind where
  | word
  | number
  | text
  | sign
  | lineEnd
  | indent
  | dedent
  deriving DecidableEq, Repr

structure Token where
  kind : TokenKind
  text : String := ""
  line : Nat := 1
  deriving Repr

namespace Token

def isAsciiLetter (c : Char) : Bool := c.isAlpha || c == '_'

def mayStartWord (c : Char) : Bool := isAsciiLetter c || 128 ≤ c.toNat

def mayContinueWord (c : Char) : Bool := mayStartWord c || c.isDigit

def isHex (c : Char) : Bool :=
  c.isDigit || ('a' ≤ c && c ≤ 'f') || ('A' ≤ c && c ≤ 'F')

def digitsLength (p : Char → Bool) : List Char → Option Nat
  | '_' :: c :: rest => if p c then (· + 2) <$> digitsLength p rest else none
  | ['_'] => none
  | c :: rest => if p c then (· + 1) <$> digitsLength p rest else some 0
  | [] => some 0

def followers : List String := ["and", "else", "for", "if", "in", "is", "or"]

def endsNumber (rest : List Char) : Bool :=
  (followers.any fun w => w.toList.isPrefixOf rest) || !rest.head?.any mayContinueWord

def ended (cs : List Char) (n : Nat) : Option Nat :=
  if endsNumber (cs.drop n) then some n else none

def basedLength (p : Char → Bool) (cs : List Char) : Option Nat := do
  let digits := cs.drop 2
  let n ← match digits with
    | '_' :: c :: _ => if p c then digitsLength p digits else none
    | c :: _ => if p c then digitsLength p digits else none
    | [] => none
  ended cs (n + 2)

def imaginaryOrEnd (cs : List Char) (n : Nat) : Option Nat :=
  match cs.drop n with
  | c :: _ => if c == 'j' || c == 'J' then ended cs (n + 1) else ended cs n
  | [] => some n

def isExponentSign (c : Char) : Bool := c == 'e' || c == 'E'

def exponentFrom (cs : List Char) (n : Nat) : Option Nat :=
  match cs.drop n with
  | e :: c :: rest =>
      if !isExponentSign e then imaginaryOrEnd cs n
      else if c == '+' || c == '-' then
        if rest.head?.any Char.isDigit then
          do imaginaryOrEnd cs (n + 2 + (← digitsLength Char.isDigit rest))
        else none
      else if c.isDigit then
        do imaginaryOrEnd cs (n + 1 + (← digitsLength Char.isDigit (c :: rest)))
      else ended cs n
  | _ => imaginaryOrEnd cs n

def fractionFrom (cs : List Char) (n : Nat) : Option Nat :=
  match cs.drop n with
  | '.' :: rest =>
      if rest.head?.any Char.isDigit then
        do exponentFrom cs (n + 1 + (← digitsLength Char.isDigit rest))
      else exponentFrom cs (n + 1)
  | _ => exponentFrom cs n

def hasIdleZero (digits : List Char) : Bool :=
  digits.head? == some '0' && digits.any fun c => c.isDigit && c != '0'

def isPlainWhole (cs : List Char) (n : Nat) : Bool :=
  !(cs.drop n).head?.any fun c => c == '.' || c == 'j' || c == 'J' || isExponentSign c

def maxWholeDigits : Nat := 4300

def decimalLength (cs : List Char) : Option Nat := do
  let n ← digitsLength Char.isDigit cs
  let all ← fractionFrom cs n
  if all = n && isPlainWhole cs n then
    let digits := (cs.take n).filter Char.isDigit
    if hasIdleZero digits || maxWholeDigits < digits.length then none else some all
  else if all = n && hasIdleZero ((cs.take n).filter Char.isDigit) then none
  else some all

def numberLength (cs : List Char) : Option Nat :=
  match cs with
  | '0' :: b :: _ =>
      if b == 'x' || b == 'X' then basedLength isHex cs
      else if b == 'o' || b == 'O' then do
        let n ← basedLength (fun c => '0' ≤ c && c ≤ '7') cs
        if (cs.drop n).head?.any Char.isDigit then none else some n
      else if b == 'b' || b == 'B' then do
        let n ← basedLength (fun c => c == '0' || c == '1') cs
        if (cs.drop n).head?.any Char.isDigit then none else some n
      else decimalLength cs
  | _ => decimalLength cs

def isQuote (c : Char) : Bool := c == '\'' || c == '"'

def isPrefixLetter (c : Char) : Bool := "bBrRuUfF".toList.contains c

def prefixes : List String := ["", "b", "r", "u", "f", "br", "rb", "fr", "rf"]

def prefixLength (cs : List Char) : Option Nat :=
  let letters := cs.takeWhile isPrefixLetter
  let lead := String.ofList (letters.map Char.toLower)
  if letters.length ≤ 2 && prefixes.contains lead && (cs.drop letters.length).head?.any isQuote then
    some letters.length
  else none

def closedAfter (quote : Char) (three : Bool) (n : Nat) : List Char → Option Nat
  | '\\' :: _ :: rest => closedAfter quote three (n + 2) rest
  | c :: rest =>
      if c == quote then
        if !three then some (n + 1)
        else match rest with
          | a :: b :: _ =>
              if a == quote && b == quote then some (n + 3)
              else closedAfter quote three (n + 1) rest
          | _ => none
      else if c == '\n' && !three then none
      else closedAfter quote three (n + 1) rest
  | [] => none

def textLength (lead : Nat) (cs : List Char) : Option Nat :=
  match cs.drop lead with
  | q :: rest =>
      match rest with
      | a :: b :: more =>
          if a == q && b == q then closedAfter q true (lead + 3) more
          else closedAfter q false (lead + 1) rest
      | _ => closedAfter q false (lead + 1) rest
  | [] => none

def signs : List String :=
  ["**=", "//=", ">>=", "<<=", "...", "!=", "%=", "&=", "**", "*=", "+=", "-=", "->", "//", "/=",
   ":=", "<<", "<=", "==", ">=", ">>", "@=", "^=", "|=", "+", "-", "*", "/", "%", "@", "&", "|",
   "^", "~", "<", ">", "(", ")", "[", "]", "\x7b", "\x7d", ",", ":", ";", ".", "="]

def closingOf (opening : Char) : Char :=
  if opening == '(' then ')' else if opening == '[' then ']' else '\x7d'

def isOpening (c : Char) : Bool := c == '(' || c == '[' || c == '\x7b'

def isClosing (c : Char) : Bool := c == ')' || c == ']' || c == '\x7d'

def maxBrackets : Nat := 200

def maxIndents : Nat := 99

structure State where
  tokens : List Token := []
  indents : List (Nat × Nat) := []
  brackets : List Char := []
  line : Nat := 1

namespace State

def push (s : State) (kind : TokenKind) (text : List Char := []) : State :=
  { s with tokens := ⟨kind, String.ofList text, s.line⟩ :: s.tokens }

def innermost (s : State) : Nat × Nat := s.indents.headD (0, 0)

def indentTo (s : State) (width narrow : Nat) : Option State :=
  let top := s.innermost
  if width = top.1 then (if narrow = top.2 then some s else none)
  else if top.1 < width then
    if maxIndents ≤ s.indents.length || narrow ≤ top.2 then none
    else some { s.push .indent with indents := (width, narrow) :: s.indents }
  else
    let closed := (s.indents.takeWhile fun i => width < i.1).length
    let s := { s with
      indents := s.indents.drop closed
      tokens := List.replicate closed ⟨.dedent, "", s.line⟩ ++ s.tokens }
    if s.innermost = (width, narrow) then some s else none

end State

structure Margin where
  width : Nat := 0
  narrow : Nat := 0
  joined : Nat := 0
  lines : Nat := 0

def measure (m : Margin) : List Char → Option (Margin × List Char)
  | ' ' :: rest => measure { m with width := m.width + 1, narrow := m.narrow + 1 } rest
  | '\t' :: rest => measure { m with width := (m.width / 8 + 1) * 8, narrow := m.narrow + 1 } rest
  | '\x0c' :: rest => measure { m with width := 0, narrow := 0 } rest
  | '\\' :: rest =>
      match rest with
      | '\n' :: more =>
          if more.isEmpty then none
          else
            measure { m with
              joined := if m.joined = 0 then m.width else m.joined
              lines := m.lines + 1 } more
      | _ => none
  | cs => some (m, cs)

def Margin.widths (m : Margin) : Nat × Nat :=
  if m.joined = 0 then (m.width, m.narrow) else (m.joined, m.joined)

def isLineSpace (c : Char) : Bool := c == ' ' || c == '\t' || c == '\x0c'

def lineEndsIn (cs : List Char) : Nat := (cs.filter (· == '\n')).length

def takeOne (s : State) (c : Char) (cs : List Char) : Option (State × List Char) :=
  let taken (kind : TokenKind) (n : Nat) : State × List Char :=
    let text := cs.take n
    let s := s.push kind text
    ({ s with line := s.line + lineEndsIn text }, cs.drop n)
  match prefixLength cs with
  | some lead => (textLength lead cs).map (taken .text)
  | none =>
      if mayStartWord c then
        let w := cs.takeWhile mayContinueWord
        if Text.startsName c && w.all Text.continuesName then some (taken .word w.length) else none
      else if c.isDigit || (c == '.' && (cs.drop 1).head?.any Char.isDigit) then
        (numberLength cs).map (taken .number)
      else do
        let sign ← signs.find? fun o => o.toList.isPrefixOf cs
        let (s, rest) := taken .sign sign.length
        if isOpening c then
          if maxBrackets ≤ s.brackets.length then none
          else some ({ s with brackets := c :: s.brackets }, rest)
        else if isClosing c then
          match s.brackets with
          | b :: more => if closingOf b == c then some ({ s with brackets := more }, rest) else none
          | [] => none
        else some (s, rest)

def scan : Nat → Bool → State → List Char → Option State
  | 0, _, _, _ => none
  | fuel + 1, true, s, cs => do
      let (m, rest) ← measure {} cs
      let s := { s with line := s.line + m.lines }
      if rest.head? == some '#' || rest.head? == some '\n' then
        let rest := rest.dropWhile (· != '\n')
        scan fuel true { s with line := s.line + 1 } (rest.drop 1)
      else if s.brackets.isEmpty then scan fuel false (← s.indentTo m.widths.1 m.widths.2) rest
      else scan fuel false s rest
  | fuel + 1, false, s, cs =>
      match cs.dropWhile isLineSpace with
      | [] => if s.brackets.isEmpty then some s else none
      | '#' :: rest => scan fuel false s (rest.dropWhile (· != '\n'))
      | '\n' :: rest =>
          if s.brackets.isEmpty then scan fuel true { s.push .lineEnd with line := s.line + 1 } rest
          else scan fuel true { s with line := s.line + 1 } rest
      | '\\' :: '\n' :: rest =>
          if rest.isEmpty then none else scan fuel false { s with line := s.line + 1 } rest
      | c :: rest => do
          let (s, rest) ← takeOne s c (c :: rest)
          scan fuel false s rest

def closedLines (cs : List Char) : List Char :=
  if cs.getLast? == some '\n' then cs else cs ++ ['\n']

def all (cs : List Char) : Option (List Token) := do
  let cs := closedLines (Text.unifyLines cs)
  let s ← scan (2 * cs.length + 4) true {} cs
  return s.tokens.reverse

def within (cs : List Char) : Option (List Token) := do
  let s ← scan (2 * cs.length + 4) false {} (Text.unifyLines cs)
  return s.tokens.reverse

end Token

end CodeSurvey.Outline
