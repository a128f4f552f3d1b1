namespace CodeSurvey.Text

inductive Rule where
  | skip
  | one (p : Char → Bool)
  | seq (a b : Rule)
  | alt (a b : Rule)
  | many (a : Rule)
  | keep (part : Nat) (a : Rule)
  | behind (p : Char → Bool)
  | finish

structure Spot where
  last : Option Char
  rest : List Char
  kept : List (Nat × List Char)
  deriving Repr

namespace Spot

def start (cs : List Char) : Spot := ⟨none, cs, []⟩

def keep (before after : Spot) (part : Nat) : Spot :=
  { after with kept := (part,
    before.rest.take (before.rest.length - after.rest.length)) :: after.kept }

def part? (s : Spot) (part : Nat) : Option (List Char) :=
  s.kept.lookup part

end Spot

namespace Rule

def repeated (step : Spot → List Spot) : Nat → Spot → List Spot
  | 0, s => [s]
  | n + 1, s =>
      ((step s).flatMap fun t =>
        if t.rest.length < s.rest.length then repeated step n t else []) ++ [s]

def runs : Rule → Spot → List Spot
  | skip, s => [s]
  | one p, s =>
      match s.rest with
      | c :: rest => if p c then [⟨some c, rest, s.kept⟩] else []
      | [] => []
  | seq a b, s => (runs a s).flatMap (runs b)
  | alt a b, s => runs a s ++ runs b s
  | many a, s => repeated (runs a) s.rest.length s
  | keep n a, s => (runs a s).map fun t => s.keep t n
  | behind p, s => if s.last.any p then [s] else []
  | finish, s => if s.rest.isEmpty || s.rest == ['\n'] then [s] else []

def char (c : Char) : Rule := one (· == c)

def word (s : String) : Rule := s.toList.foldr (fun c r => seq (char c) r) skip

def opt (a : Rule) : Rule := alt a skip

def many1 (a : Rule) : Rule := seq a (many a)

def all : List Rule → Rule
  | [] => skip
  | [a] => a
  | a :: rest => seq a (all rest)

def any : List Rule → Rule
  | [] => one fun _ => false
  | [a] => a
  | a :: rest => alt a (any rest)

def match? (r : Rule) (cs : List Char) : Option Spot :=
  (runs r (Spot.start cs)).head?

def replaceFrom (r : Rule) (f : Spot → List Char) : Nat → Option Char → List Char → List Char
  | 0, _, cs => cs
  | _, _, [] => []
  | fuel + 1, last, c :: rest =>
      match (runs r ⟨last, c :: rest, []⟩).head? with
      | some t =>
          if t.rest.length < rest.length + 1 then f t ++ replaceFrom r f fuel t.last t.rest
          else c :: replaceFrom r f fuel (some c) rest
      | none => c :: replaceFrom r f fuel (some c) rest

def replace (r : Rule) (f : Spot → List Char) (cs : List Char) : List Char :=
  replaceFrom r f (cs.length + 1) none cs

def splitFrom (r : Rule) : Nat → Option Char → List Char → List Char → List (List Char)
  | 0, _, acc, cs => [acc.reverse ++ cs]
  | _, _, acc, [] => [acc.reverse]
  | fuel + 1, last, acc, c :: rest =>
      match (runs r ⟨last, c :: rest, []⟩).head? with
      | some t =>
          if t.rest.length < rest.length + 1 then acc.reverse :: splitFrom r fuel t.last [] t.rest
          else splitFrom r fuel (some c) (c :: acc) rest
      | none => splitFrom r fuel (some c) (c :: acc) rest

def split (r : Rule) (cs : List Char) : List (List Char) :=
  splitFrom r (cs.length + 1) none [] cs

end Rule

end CodeSurvey.Text
