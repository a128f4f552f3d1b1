import CodeSurvey.Analysis.Basic
import CodeSurvey.Syntax

namespace CodeSurvey

namespace Exports

def namedDeclarations : List String :=
  ["function_declaration", "generator_function_declaration", "class_declaration"]

def declaredNames (declaration : Node) : List String :=
  if namedDeclarations.contains declaration.kind then [Node.textOf (declaration.child? "name")]
  else if declaration.kind == "lexical_declaration" || declaration.kind
    == "variable_declaration" then
    (declaration.namedChildren.filter (·.kind == "variable_declarator")).map fun item =>
      Node.textOf (item.child? "name")
  else []

def specifierName (item : Node) : String :=
  Node.textOf ((item.child? "alias").or (item.child? "name"))

def clauseNames (child : Node) : List String :=
  if child.kind == "export_clause" then
    (child.namedChildren.filter (·.kind == "export_specifier")).map specifierName
  else if child.kind == "namespace_export" then ["[*]"]
  else []

def specifiers (statement : Node) : List String :=
  if statement.hasChild "default" then ["[default]"]
  else match statement.child? "declaration" with
    | some declaration => declaredNames declaration
    | none =>
        let names := statement.namedChildren.flatMap clauseNames
        if names.isEmpty && statement.hasChild "*" then ["[*]"] else names

structure Entry where
  specifiers : List String
  source : Option String
  deriving DecidableEq, Repr

def Entry.toJson (e : Entry) : Json :=
  .obj [("exportSpecifiers", .ofTexts e.specifiers), ("source", .ofOption (e.source.map .str))]

def entryOf (n : Node) : Option Entry :=
  if n.kind == "export_statement" then
    some ⟨specifiers n, (n.child? "source").map fun s => Node.valueOf (some s)⟩
  else none

def collect (root : Node) : List Entry :=
  root.walk.filterMap entryOf

def nameCount (entries : List Entry) : Nat :=
  entries.foldl (fun n e => n + e.specifiers.length) 0

def inFile (root : Node) (_ : FileContext) : Except Fault Findings :=
  let entries := collect root
  .ok {
    result := entries.map Entry.toJson
    about := if entries.isEmpty then .null else .obj [("exportCount", .int (nameCount entries))] }

end Exports

end CodeSurvey
