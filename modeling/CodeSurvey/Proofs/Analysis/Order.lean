import CodeSurvey.Analysis.Exports
import CodeSurvey.Analysis.Imports
import CodeSurvey.Proofs.Syntax.DocumentOrder
import Mathlib.Data.List.Basic

namespace CodeSurvey

variable {n : Node} {nodes : List Node}

namespace Imports

def made (root : Node) (path : String) : List (Node × Entry) :=
  root.walk.filterMap fun n => (entryOf path n).map (Prod.mk n)

def isExport (n : Node) : Bool := n.kind == "export_statement"

def reexported (root : Node) (path : String) : List Entry :=
  ((made root path).filter fun found => isExport found.1).map Prod.snd

theorem collect_eq_made (root : Node) (path : String) :
    collect root path = (made root path).map Prod.snd := by
  rw [collect, made, List.map_filterMap]
  refine List.filterMap_congr fun n _ => ?_
  rw [Option.map_map]
  exact Option.map_id'.symm

theorem reexported_eq (root : Node) (path : String) :
    reexported root path = (root.walk.filter isExport).filterMap (entryOf path) := by
  rw [reexported, made]
  induction root.walk with
  | nil => rfl
  | cons n rest ih =>
      rw [List.filterMap_cons, List.filter_cons]
      cases hentry : entryOf path n with
      | none =>
          rw [Option.map_none, ih]
          split
          · rw [List.filterMap_cons_none hentry]
          · rfl
      | some e =>
          rw [Option.map_some, List.filter_cons]
          split
          · rw [List.map_cons, List.filterMap_cons_some hentry, ih]
          · exact ih

theorem entryOf_export (h : isExport n = true) (path : String) : entryOf path n
    = (n.child? "source").map fun source =>
      Entry.of path ["[re-export]"] (Node.valueOf (some source)) := by
  have hkind : n.kind = "export_statement" := by simpa [isExport] using h
  rw [entryOf, hkind]
  rfl

end Imports

namespace Exports

theorem entryOf_eq_none (h : Imports.isExport n = false) : entryOf n = none := by
  rw [entryOf]
  exact if_neg (Bool.eq_false_iff.1 h)

theorem entryOf_eq_some (h : Imports.isExport n = true) :
    entryOf n = some ⟨specifiers n, (n.child? "source").map fun s => Node.valueOf (some s)⟩ := by
  rw [entryOf]
  exact if_pos h

theorem filterMap_entryOf (nodes : List Node) :
    nodes.filterMap entryOf = (nodes.filter Imports.isExport).filterMap entryOf := by
  rw [List.filterMap_filter]
  refine List.filterMap_congr fun n _ => ?_
  split
  · rfl
  · rename_i h
    exact entryOf_eq_none (Bool.eq_false_iff.2 h)

end Exports

namespace Imports

theorem source_of_export (h : isExport n = true) (path : String) :
    (entryOf path n).map (·.source) = (Exports.entryOf n).bind (·.source) := by
  rw [entryOf_export h, Exports.entryOf_eq_some h, Option.map_map, Option.bind_some]
  rfl

theorem sources_reexported (root : Node) (path : String) :
    (reexported root path).map (·.source) = (Exports.collect root).filterMap (·.source) := by
  rw [reexported_eq, Exports.collect, Exports.filterMap_entryOf, List.map_filterMap,
    List.filterMap_filterMap]
  refine List.filterMap_congr fun n hn => ?_
  exact source_of_export (List.mem_filter.1 hn).2 path

theorem found_in_document_order (root : Node) :
    (∀ t, (Node.Walk.start root).EndsAt t ↔ t = ⟨[], root.walk⟩)
    ∧ root.walk = root.preorder ∧ root.InDocumentOrder root.walk
    ∧ (∀ path, collect root path = root.preorder.filterMap (entryOf path)
      ∧ collect root path = (made root path).map Prod.snd
      ∧ (reexported root path).map (·.source) = (Exports.collect root).filterMap (·.source))
    ∧ ∀ context, ∃ findings, Exports.inFile root context = .ok findings
      ∧ findings.result = (root.preorder.filterMap Exports.entryOf).map Exports.Entry.toJson := by
  have horder : (Node.Walk.start root).order = root.walk := by
    rw [Node.walk_eq, Node.Walk.order, Node.Walk.start, List.nil_append, Node.preorders,
      Node.preorders, List.append_nil]
  refine ⟨fun t => ?_, Node.walk_eq root, ?_, fun path =>
    ⟨?_, collect_eq_made root path, sources_reexported root path⟩, fun context => ⟨_, rfl, ?_⟩⟩
  · rw [Node.Walk.endsAt_iff, horder]
  · rw [Node.walk_eq]
    exact Node.inDocumentOrder_preorder root
  · rw [collect, Node.walk_eq]
  · rw [Exports.collect, Node.walk_eq]

end Imports

end CodeSurvey
