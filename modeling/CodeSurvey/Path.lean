import CodeSurvey.Fault
import CodeSurvey.Text.Pieces

namespace CodeSurvey.Path

def split (path : String) : List String :=
  (Text.pieces '/' path.toList).map String.ofList

def join (segments : List String) : String :=
  String.ofList (Text.glue '/' (segments.map String.toList))

theorem join_split (path : String) : join (split path) = path := by
  simp [join, split, Function.comp_def, Text.glue_pieces]

def isAbsolute (path : String) : Bool :=
  path.toList.head? = some '/'

-- Exactly two slashes in front are kept; any other number of them is one.
def leading (path : String) : String :=
  match path.toList with
  | '/' :: '/' :: '/' :: _ => "/"
  | '/' :: '/' :: _ => "//"
  | '/' :: _ => "/"
  | _ => ""

def proper (segments : List String) : List String :=
  segments.filter fun s => s != "" && s != "."

def climb (rooted : Bool) (done : List String) (segment : String) : List String :=
  if segment != ".." then segment :: done
  else match done with
    | [] => if rooted then [] else [".."]
    | last :: rest => if last = ".." then ".." :: done else rest

def resolveSegments (rooted : Bool) (segments : List String) : List String :=
  ((proper segments).foldl (climb rooted) []).reverse

def orDot (path : String) : String :=
  if path.isEmpty then "." else path

def normal (path : String) : String :=
  orDot (leading path ++ join (resolveSegments (isAbsolute path) (split path)))

def tidy (path : String) : String :=
  orDot (leading path ++ join (proper (split path)))

def append (base path : String) : String :=
  if isAbsolute path then path
  else if base.isEmpty || base.toList.getLast? = some '/' then base ++ path
  else base ++ "/" ++ path

def parent (path : String) : String :=
  let head := join (split path).dropLast
  if head.isEmpty then (if isAbsolute path then "/" else "")
  else
    let kept := head.toList.reverse.dropWhile (· == '/')
    if kept.isEmpty then head ++ "/" else String.ofList kept.reverse

def fileName (path : String) : String :=
  (proper (split path)).getLastD ""

def suffix (name : String) : String :=
  let cs := name.toList
  let tail := cs.reverse.takeWhile (· != '.')
  if tail.length < cs.length && !tail.isEmpty && tail.length + 1 < cs.length then
    String.ofList ('.' :: tail.reverse)
  else ""

def located (current path : String) : List String :=
  resolveSegments true (split (append current path))

def absolute (current path : String) : String :=
  "/" ++ join (located current path)

def commonLength : List String → List String → Nat
  | a :: as, b :: bs => if a = b then commonLength as bs + 1 else 0
  | _, _ => 0

def relative (current path start : String) : String :=
  let there := located current path
  let here := located current start
  let shared := commonLength here there
  orDot (join (List.replicate (here.length - shared) ".." ++ there.drop shared))

def fromRoot (current file root : String) : String :=
  "./" ++ relative current file root

def nameFromRoot (current file root : String) : Except Fault String :=
  if file.isEmpty then .error .invalid else .ok (fromRoot current file root)

def withSlashes (path : String) : String :=
  String.ofList (path.toList.map fun c => if c = '\\' then '/' else c)

theorem withSlashes_withSlashes (path : String) :
    withSlashes (withSlashes path) = withSlashes path := by
  have h : ∀ c : Char,
      (if (if c = '\\' then '/' else c) = '\\' then '/' else (if c = '\\' then '/' else c))
      = if c = '\\' then '/' else c := by
    intro c; by_cases hc : c = '\\' <;> simp [hc]
  simp [withSlashes, Function.comp_def, h]

end CodeSurvey.Path
