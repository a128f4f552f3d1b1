namespace CodeSurvey.Text

abbrev Edges := Array Nat

namespace Edges

def below (edges : Edges) (n : Nat) : Nat :=
  edges.foldl (fun k e => if e ≤ n then k + 1 else k) 0

def contains (edges : Edges) (c : Char) : Bool :=
  edges.below c.toNat % 2 = 1

end Edges

def blankEdges : Edges :=
  #[0x9, 0xe, 0x1c, 0x21, 0x85, 0x86, 0xa0, 0xa1, 0x1680, 0x1681, 0x2000, 0x200b, 0x2028, 0x202a,
   0x202f, 0x2030, 0x205f, 0x2060, 0x3000, 0x3001]

def isBlank (c : Char) : Bool :=
  blankEdges.contains c

def trimLeft (cs : List Char) : List Char :=
  cs.dropWhile isBlank

def trim (cs : List Char) : List Char :=
  (trimLeft (trimLeft cs).reverse).reverse

def stripWhere (p : Char → Bool) (cs : List Char) : List Char :=
  ((cs.dropWhile p).reverse.dropWhile p).reverse

def trimmed (s : String) : String :=
  String.ofList (trim s.toList)

def wordsAux : List Char → List Char → List (List Char)
  | word, [] => [word.reverse]
  | word, c :: rest =>
      if isBlank c then
        match rest with
        | d :: _ => if isBlank d then wordsAux word rest else word.reverse :: wordsAux [] rest
        | [] => [word.reverse, []]
      else wordsAux (c :: word) rest

def splitBlanks (cs : List Char) : List (List Char) :=
  wordsAux [] cs

end CodeSurvey.Text
