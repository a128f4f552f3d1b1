namespace CodeSurvey.Pattern

inductive Span where
  | one (c : Char)
  | range (first last : Char)
  deriving DecidableEq, Repr

def Span.holds : Span → Char → Bool
  | one a, c => a == c
  | range a b, c => a ≤ c && c ≤ b

def Span.isEmpty : Span → Bool
  | one _ => false
  | range a b => b < a

inductive Piece where
  | any
  | run
  | only (c : Char)
  | among (spans : List Span)
  | except (spans : List Span)
  deriving DecidableEq, Repr

def Piece.holds : Piece → Char → Bool
  | any, _ => true
  | run, _ => true
  | only a, c => a == c
  | among spans, c => spans.any (·.holds c)
  | except spans, c => !spans.any (·.holds c)

def spans : List Char → List Span
  | a :: '-' :: b :: rest => .range a b :: spans rest
  | a :: rest => .one a :: spans rest
  | [] => []

-- Empty ranges hold nothing; an exclamation mark left in front turns the set around.
def setPiece (inside : List Char) : Piece :=
  let all : List Span := match inside with
    | '!' :: rest => .one '!' :: spans rest
    | cs => spans cs
  match all.filter (!·.isEmpty) with
  | .one '!' :: rest => .except rest
  | kept => .among kept

def bracket (cs : List Char) : Option (List Char × List Char) :=
  let (mark, body) : List Char × List Char := match cs with
    | '!' :: rest => (['!'], rest)
    | rest => ([], rest)
  let (first, body) : List Char × List Char := match body with
    | ']' :: rest => ([']'], rest)
    | rest => ([], rest)
  match body.dropWhile (· != ']') with
  | ']' :: after => some (mark ++ first ++ body.takeWhile (· != ']'), after)
  | _ => none

def compileWithin : Nat → List Char → List Piece
  | 0, _ => []
  | _, [] => []
  | fuel + 1, c :: rest =>
      if c = '*' then .run :: compileWithin fuel (rest.dropWhile (· == '*'))
      else if c = '?' then .any :: compileWithin fuel rest
      else if c = '[' then
        match bracket rest with
        | some (inside, after) => setPiece inside :: compileWithin fuel after
        | none => .only c :: compileWithin fuel rest
      else .only c :: compileWithin fuel rest

def compile (pattern : List Char) : List Piece :=
  compileWithin pattern.length pattern

def tails : List Char → List (List Char)
  | [] => [[]]
  | c :: rest => (c :: rest) :: tails rest

def covers : List Piece → List Char → Bool
  | [], cs => cs.isEmpty
  | .run :: [], _ => true
  | .run :: pieces, cs => (tails cs).any (covers pieces)
  | piece :: pieces, c :: cs => piece.holds c && covers pieces cs
  | _ :: _, [] => false

def globMatches (pattern path : List Char) : Bool :=
  covers (compile pattern) path

end CodeSurvey.Pattern
