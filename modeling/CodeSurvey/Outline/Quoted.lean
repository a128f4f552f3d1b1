import CodeSurvey.Outline.Token

namespace CodeSurvey.Outline

structure Quoted where
  raw : Bool
  octets : Bool
  formatted : Bool
  content : List Char

namespace Quoted

def ofToken (text : String) : Quoted :=
  let cs := text.toList
  let lead := (cs.takeWhile fun c => !Token.isQuote c).map Char.toLower
  let body := cs.drop lead.length
  let quotes := match body with
    | a :: b :: c :: _ => if a == b && b == c && 6 ≤ body.length then 3 else 1
    | _ => 1
  { raw := lead.contains 'r'
    octets := lead.contains 'b'
    formatted := lead.contains 'f'
    content := (body.drop quotes).take (body.length - 2 * quotes) }

def hexRun (n : Nat) (cs : List Char) : Bool :=
  (cs.take n).length = n && (cs.take n).all Token.isHex

def hexValue (cs : List Char) : Nat :=
  cs.foldl (fun n c => n * 16 + (if c.isDigit then c.toNat - 48 else c.toLower.toNat - 87)) 0

def isCharName (c : Char) : Bool :=
  c.isAlphanum || c == ' ' || c == '-'

def afterCharName : List Char → Option (List Char)
  | '{' :: rest =>
      let name := rest.takeWhile (· != '\x7d')
      if name.isEmpty || !name.all isCharName then none
      else match rest.drop name.length with
        | _ :: more => some more
        | [] => none
  | _ => none

def escapesHold (octets : Bool) : Nat → List Char → Bool
  | 0, _ => true
  | _, [] => true
  | fuel + 1, '\\' :: c :: rest =>
      if c == 'x' then hexRun 2 rest && escapesHold octets fuel (rest.drop 2)
      else if octets then escapesHold octets fuel rest
      else if c == 'u' then hexRun 4 rest && escapesHold octets fuel (rest.drop 4)
      else if c == 'U' then
        hexRun 8 rest && hexValue (rest.take 8) < 0x110000 && escapesHold octets fuel (rest.drop 8)
      else if c == 'N' then
        match afterCharName rest with
        | some rest => escapesHold octets fuel rest
        | none => false
      else escapesHold octets fuel rest
  | fuel + 1, _ :: rest => escapesHold octets fuel rest

def charsHold (q : Quoted) (cs : List Char) : Bool :=
  q.raw || escapesHold q.octets (cs.length + 1) cs

def literal (raw top : Bool) : Nat → List Char → List Char → Option (List Char × List Char)
  | 0, _, _ => none
  | _, done, [] => some (done.reverse, [])
  | fuel + 1, done, '\\' :: c :: rest =>
      if raw then literal raw top fuel ('\\' :: done) (c :: rest)
      else if c == 'N' && rest.head? == some '\x7b' then
        let name := rest.takeWhile (· != '\x7d')
        let length := name.length + 1
        literal raw top fuel ((rest.take length).reverse ++ 'N' :: '\\' :: done) (rest.drop length)
      else if c == '\x7b' || c == '\x7d' then literal raw top fuel ('\\' :: done) (c :: rest)
      else literal raw top fuel (c :: '\\' :: done) rest
  | fuel + 1, done, c :: rest =>
      if c == '\x7b' || c == '\x7d' then
        if top && rest.head? == some c then literal raw top fuel (c :: done) (rest.drop 1)
        else if top && c == '\x7d' then none
        else some (done.reverse, c :: rest)
      else literal raw top fuel (c :: done) rest

structure Search where
  quote : Option (Char × Bool) := none
  brackets : List Char := []

def isThree (q : Char) : List Char → Bool
  | a :: b :: _ => a == q && b == q
  | _ => false

def expressionEnd : Nat → Search → List Char → List Char → Option (List Char × List Char)
  | 0, _, _, _ => none
  | _, _, _, [] => none
  | fuel + 1, s, done, c :: rest =>
      if c == '\\' then none
      else match s.quote with
        | some (q, three) =>
            if c != q then expressionEnd fuel s (c :: done) rest
            else if !three then expressionEnd fuel { s with quote := none } (c :: done) rest
            else if isThree q rest then
              expressionEnd fuel { s with quote := none } (c :: c :: c :: done) (rest.drop 2)
            else expressionEnd fuel s (c :: done) rest
        | none =>
            if Token.isQuote c then
              if isThree c rest then
                expressionEnd fuel { s with quote := some (c, true) } (c :: c :: c :: done)
                  (rest.drop 2)
              else expressionEnd fuel { s with quote := some (c, false) } (c :: done) rest
            else if Token.isOpening c then
              if Token.maxBrackets ≤ s.brackets.length then none
              else expressionEnd fuel { s with brackets := c :: s.brackets } (c :: done) rest
            else if c == '#' then none
            else if s.brackets.isEmpty && "!:\x7d=><".toList.contains c then
              if "!=<>".toList.contains c && rest.head? == some '=' then
                expressionEnd fuel s ('=' :: c :: done) (rest.drop 1)
              else if c == '<' || c == '>' then expressionEnd fuel s (c :: done) rest
              else some (done.reverse, c :: rest)
            else if Token.isClosing c then
              match s.brackets with
              | b :: more =>
                  if Token.closingOf b == c then
                    expressionEnd fuel { s with brackets := more } (c :: done) rest else none
              | [] => none
            else expressionEnd fuel s (c :: done) rest

def isFormatSpace (c : Char) : Bool :=
  c == ' ' || c == '\t' || c == '\n' || c == '\x0c' || c == '\r'

def isSpace (c : Char) : Bool := isFormatSpace c || c == '\x0b'

def afterShown : List Char → List Char
  | '=' :: rest => rest.dropWhile isSpace
  | cs => cs

def afterConversion : List Char → Option (List Char)
  | '!' :: c :: rest => if c == 's' || c == 'r' || c == 'a' then some rest else none
  | ['!'] => none
  | cs => some cs

mutual

def partsEnd (reads : List Char → Bool) (q : Quoted) (depth : Nat) :
    Nat → List Char → Option (List Char)
  | 0, _ => none
  | fuel + 1, cs => do
      let (plain, rest) ← literal q.raw (depth = 0) (cs.length + 1) [] cs
      if !charsHold q plain then none
      else match rest with
        | '{' :: inner =>
            let rest ← holeEnd reads q depth fuel inner
            partsEnd reads q depth fuel rest
        | rest => some rest

def holeEnd (reads : List Char → Bool) (q : Quoted) (depth : Nat) :
    Nat → List Char → Option (List Char)
  | 0, _ => none
  | fuel + 1, cs => do
      if 2 ≤ depth then none
      let (inner, rest) ← expressionEnd (cs.length + 1) {} [] cs
      if inner.all isFormatSpace || !reads inner then none
      let rest ← afterConversion (afterShown rest)
      let rest ← match rest with
        | ':' :: more => if more.isEmpty then none else partsEnd reads q (depth + 1) fuel more
        | rest => some rest
      match rest with
      | '}' :: more => some more
      | _ => none

end

def holds (reads : List Char → Bool) (q : Quoted) : Bool :=
  if q.octets && q.content.any (127 < ·.toNat) then false
  else if q.formatted then
    match partsEnd reads q 0 (q.content.length + 2) q.content with
    | some rest => rest.isEmpty
    | none => false
  else charsHold q q.content

end Quoted

end CodeSurvey.Outline
