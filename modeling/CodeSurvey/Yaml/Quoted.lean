import CodeSurvey.Yaml.Cursor

namespace CodeSurvey.Yaml.Quoted

def breaksFrom : List Char → Scan (List Char)
  | [] => return []
  | _ :: limit => do
      if isDocumentMark (← ahead) then refuse
      skipWhile isBlank
      match ← lineBreak with
      | some c => return c :: (← breaksFrom limit)
      | none => return []

def breaks : Scan (List Char) := do
  breaksFrom (← ahead)

def escapes : List (Char × Char) :=
  [('0', '\x00'), ('a', '\x07'), ('b', '\x08'), ('t', '\t'), ('\t', '\t'), ('n', '\n'),
   ('v', '\x0b'), ('f', '\x0c'), ('r', '\r'), ('e', '\x1b'), (' ', ' '), ('"', '"'), ('\\', '\\'),
   ('/', '/'), ('N', '\u0085'), ('_', '\u00a0'), ('L', '\u2028'), ('P', '\u2029')]

def escapeLengths : List (Char × Nat) := [('x', 2), ('u', 4), ('U', 8)]

def charOfCode (code : Nat) : Scan Char :=
  if 0x10ffff < code then throw .invalid else return Char.ofNat code

def escaped : Scan (List Char) := do
  match ← peek with
  | none => refuse
  | some c =>
      match escapes.lookup c, escapeLengths.lookup c with
      | some a, _ => do
          skip 1
          return [a]
      | none, some n => do
          skip 1
          let digits := (← ahead).take n
          if digits.length < n || !digits.all isHex then refuse
          skip n
          return [← charOfCode (numberIn 16 digits)]
      | none, none =>
          match ← lineBreak with
          | some _ => breaks
          | none => refuse

def isOrdinary (c : Char) : Bool := !(c == '\'' || c == '"' || c == '\\' || isGap c)

def solid (double : Bool) : List Char → Scan (List Char)
  | [] => return []
  | _ :: limit => do
      let run ← takeWhile isOrdinary
      match ← ahead with
      | '\'' :: rest =>
          if double then
            skip 1
            return run ++ '\'' :: (← solid double limit)
          else if rest.head? == some '\'' then
            skip 2
            return run ++ '\'' :: (← solid double limit)
          else return run
      | '\\' :: _ =>
          skip 1
          let piece ← if double then escaped else pure ['\\']
          return run ++ piece ++ (← solid double limit)
      | '"' :: _ =>
          if double then return run
          else
            skip 1
            return run ++ '"' :: (← solid double limit)
      | _ => return run

def spaced : Scan (List Char) := do
  let blanks ← takeWhile isBlank
  match ← lineBreak with
  | some c => return folded c (← breaks)
  | none => if (← peek).isNone then refuse else return blanks

def textFrom (double : Bool) (quote : Char) : List Char → Scan (List Char)
  | [] => refuse
  | _ :: limit => do
      let piece ← solid double (← ahead)
      if (← peek) == some quote then
        skip 1
        return piece
      else
        let gap ← spaced
        return piece ++ gap ++ (← textFrom double quote limit)

def text : Scan String := do
  match ← ahead with
  | quote :: rest =>
      skip 1
      return String.ofList (← textFrom (quote == '"') quote rest)
  | [] => refuse

end CodeSurvey.Yaml.Quoted
