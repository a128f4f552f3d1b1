import CodeSurvey.Analysis.Basic
import CodeSurvey.Path
import CodeSurvey.Syntax

namespace CodeSurvey

namespace Imports

def isRelative (source : String) : Bool :=
  "./".toList.isPrefixOf source.toList || "../".toList.isPrefixOf source.toList
    || source == "." || source == ".."

def fromTop (path : String) : String :=
  match path.toList with
  | '.' :: '.' :: _ => path
  | '.' :: '/' :: rest => "./" ++ String.ofList rest
  | _ => "./" ++ path

def resolve (source path : String) : String :=
  if isRelative source then
    fromTop (Path.normal (Path.append (Path.parent (Path.withSlashes path)) source))
  else source

structure Entry where
  specifiers : List String
  source : String
  resolved : String
  deriving DecidableEq, Repr

def Entry.toJson (e : Entry) : Json :=
  .obj [("importSpecifiers", .ofTexts e.specifiers), ("source", .str e.source),
    ("normalizedSource", .str e.resolved)]

def Entry.of (path : String) (specifiers : List String) (source : String) : Entry :=
  ⟨specifiers, source, resolve source path⟩

def partSpecifiers (part : Node) : List String :=
  if part.kind == "identifier" then ["[default]"]
  else if part.kind == "namespace_import" then ["[*]"]
  else if part.kind == "named_imports" then
    (part.namedChildren.filter (·.kind == "import_specifier")).map fun item =>
      Node.textOf (item.child? "name")
  else []

def specifiers (statement : Node) : List String :=
  (statement.namedChildren.filter (·.kind == "import_clause")).flatMap fun clause =>
    clause.namedChildren.flatMap partSpecifiers

def orFile (specifiers : List String) : List String :=
  if specifiers.isEmpty then ["[file]"] else specifiers

def firstArgument? (call : Node) : Option String :=
  match (call.child? "arguments").map (·.namedChildren) with
  | some (first :: _) => if first.kind == "string" then some (Node.valueOf (some first)) else none
  | _ => none

def callImport (path : String) (call : Node) : Option Entry := do
  let function ← call.child? "function"
  let dynamic := function.kind == "import"
  if dynamic || (function.kind == "identifier" && Node.textOf (some function) == "require") then
    let source ← firstArgument? call
    some (Entry.of path [if dynamic then "[dynamic]" else "[require]"] source)
  else none

def entryOf (path : String) (n : Node) : Option Entry :=
  if n.kind == "import_statement" then
    some (Entry.of path (orFile (specifiers n)) (Node.valueOf (n.child? "source")))
  else if n.kind == "export_statement" then
    (n.child? "source").map fun source => Entry.of path ["[re-export]"] (Node.valueOf (some source))
  else if n.kind == "call_expression" then callImport path n
  else none

def collect (root : Node) (path : String) : List Entry :=
  root.walk.filterMap (entryOf path)

def inFile (root : Node) (context : FileContext) : Except Fault Findings :=
  let entries := collect root context.path
  let external := !((context.options.get? "onlyExternalSources").getD .null).isEmpty
  let kept := if external then entries.filter (!isRelative ·.source) else entries
  .ok { result := kept.map Entry.toJson }

end Imports

end CodeSurvey
