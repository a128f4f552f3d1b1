import CodeSurvey.Path
import CodeSurvey.Pattern.Braces
import CodeSurvey.Pattern.Glob

namespace CodeSurvey.Pattern

def isWild (c : Char) : Bool :=
  c == '*' || c == '?' || c == '[' || c == '\x7b'

def bare (pattern : List Char) : List Char :=
  Text.stripWhere (· == '/') pattern

def isAtOrBelow (folder path : List Char) : Bool :=
  path == folder || (folder ++ ['/']).isPrefixOf path

def matchesOne (pattern path : List Char) : Bool :=
  if pattern.any isWild then globMatches pattern path else isAtOrBelow (bare pattern) path

def matchesAny (patterns : List (List Char)) (path : List Char) : Bool :=
  (patterns.flatMap expand).any (matchesOne · path)

def excludes (allowlist : List (List Char)) : List (List Char) :=
  allowlist.filterMap fun
    | '!' :: rest => some rest
    | _ => none

def includes (allowlist : List (List Char)) : List (List Char) :=
  allowlist.filter fun entry => entry.head? != some '!'

def admitsChars (allowlist : List (List Char)) (path : List Char) : Bool :=
  !matchesAny (excludes allowlist) path
    && ((includes allowlist).isEmpty || matchesAny (includes allowlist) path)

def admits (allowlist : List String) (path : String) : Bool :=
  admitsChars (allowlist.map String.toList) path.toList

end CodeSurvey.Pattern
