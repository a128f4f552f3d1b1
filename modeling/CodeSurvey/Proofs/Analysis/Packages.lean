import CodeSurvey.Analysis.Matches
import CodeSurvey.Proofs.Outcome
import CodeSurvey.Proofs.Path

namespace CodeSurvey

namespace Matches

def Belongs (name source : String) : Prop := Path.split name <+: Path.split source

instance (name source : String) : Decidable (Belongs name source) :=
  inferInstanceAs (Decidable (_ <+: _))

theorem comesFrom_iff {name source : String} : comesFrom name source = true
      ↔ Belongs name source := by
  have hslash : name.toList ++ ['/'] <+: source.toList ∨ source = name ↔
      Text.pieces '/' name.toList <+: Text.pieces '/' source.toList := by
    rw [← Text.prefix_pieces_iff, String.toList_inj, or_comm]
  rw [comesFrom, Bool.or_eq_true, beq_iff_eq, List.isPrefixOf_iff_prefix, or_comm, hslash,
    ← Path.split_prefix_iff]
  rfl

def ofPackage {α : Type} (name : String) (source : α → String) (entries : List α) : List α :=
  entries.filter fun e => Belongs name (source e)

theorem filter_comesFrom {α : Type} (name : String) (source : α → String) (entries : List α) :
    (entries.filter fun e => comesFrom name (source e)) = ofPackage name source entries := by
  refine List.filter_congr fun e _ => ?_
  rw [Bool.eq_iff_iff, comesFrom_iff, decide_eq_true_iff]

theorem mem_ofPackage {α : Type} {name : String} {source : α → String} {entries : List α} {e : α} :
    e ∈ ofPackage name source entries ↔ e ∈ entries ∧ Belongs name (source e) := by
  rw [ofPackage, List.mem_filter, decide_eq_true_iff]

theorem ofPackage_map {α β : Type} (name : String) (source : β → String) (f : α → β)
    (entries : List α) :
    ofPackage name source (entries.map f) = (ofPackage name (source ∘ f) entries).map f :=
  List.filter_map

section Names

def isScope (segment : String) : Bool := segment.toList.head? == some '@'

def isPackageName (name : String) : Bool :=
  match Path.split name with
  | [own] => own != "" && !isScope own
  | [scope, own] => isScope scope && own != ""
  | _ => false

theorem isPackageName_cases {name : String} (h : isPackageName name = true) :
    (∃ own, Path.split name = [own] ∧ isScope own = false)
      ∨ ∃ scope own, Path.split name = [scope, own] ∧ isScope scope = true := by
  unfold isPackageName at h
  split at h
  · rename_i own hname
    simp only [Bool.and_eq_true, Bool.not_eq_true'] at h
    exact .inl ⟨own, hname, h.2⟩
  · rename_i scope own hname
    simp only [Bool.and_eq_true] at h
    exact .inr ⟨scope, own, hname, h.1⟩
  · exact absurd h Bool.false_ne_true

theorem eq_of_isPrefix_split {name other : String} (hname : isPackageName name = true)
    (hother : isPackageName other = true) (h : Path.split name <+: Path.split other) :
    name = other := by
  have hlength : (Path.split name).length = (Path.split other).length := by
    rcases isPackageName_cases hname with ⟨own, hs, hscope⟩ | ⟨scope, own, hs, hscope⟩ <;>
      rcases isPackageName_cases hother with ⟨own', hs', hscope'⟩ | ⟨scope', own', hs', hscope'⟩ <;>
      rw [hs, hs'] at h ⊢ <;> obtain ⟨rfl, -⟩ := List.cons_prefix_cons.1 h
    · rfl
    · exact absurd (hscope.symm.trans hscope') Bool.false_ne_true
    · exact absurd (hscope'.symm.trans hscope) Bool.false_ne_true
    · rfl
  rw [← Path.join_split name, h.eq_of_length hlength, Path.join_split]

theorem eq_of_belongs {name other source : String} (hname : isPackageName name = true)
    (hother : isPackageName other = true) (h : Belongs name source) (h' : Belongs other source) :
    name = other := by
  rcases List.prefix_or_prefix_of_prefix h h' with hprefix | hprefix
  · exact eq_of_isPrefix_split hname hother hprefix
  · exact (eq_of_isPrefix_split hother hname hprefix).symm

theorem disjoint_ofPackage {α : Type} {name other : String} (hname : isPackageName name = true)
    (hother : isPackageName other = true) (hne : name ≠ other) (source : α → String)
    (entries : List α) :
    (ofPackage name source entries).Disjoint (ofPackage other source entries) := by
  intro e he he'
  exact hne (eq_of_belongs hname hother (mem_ofPackage.1 he).2 (mem_ofPackage.1 he').2)

end Names

section Reported

structure ReportedImport where
  fields : Fields
  source : String
  specifiers : Json
  source_eq : fields.get? "source" = some (.str source)
  specifiers_eq : fields.get? "importSpecifiers" = some specifiers

def ReportedImport.toJson (i : ReportedImport) : Json := .obj i.fields

def ReportedImport.of (e : Imports.Entry) : ReportedImport :=
  ⟨[("importSpecifiers", .ofTexts e.specifiers), ("source", .str e.source),
    ("normalizedSource", .str e.resolved)], e.source, .ofTexts e.specifiers, rfl, rfl⟩

structure ReportedFile where
  fields : Fields
  file : Json
  imports : List ReportedImport
  file_eq : fields.get? "file" = some file
  imports_eq : fields.get? "result" = some (.arr (imports.map ReportedImport.toJson))

def ReportedFile.toJson (f : ReportedFile) : Json := .obj f.fields

def ReportedFile.of (path : String) (entries : List Imports.Entry) : ReportedFile where
  fields :=
    [("file", .str path), ("meta", .null), ("result", .arr (entries.map Imports.Entry.toJson))]
  file := .str path
  imports := entries.map ReportedImport.of
  file_eq := rfl
  imports_eq := by
    rw [List.map_map]
    rfl

theorem require_of_get? {fields : Fields} {name : String} {v : Json}
    (h : fields.get? name = some v) :
    (Json.obj fields).require name = .ok v := by
  simp only [Json.require, h]

variable (reference : ProjectMeta)

def ReportedImport.matched (i : ReportedImport) : Json :=
  entry reference i.specifiers (.str i.source)

theorem reportedItem_eq (i : ReportedImport) : reportedItem reference i.toJson
    = .ok (if comesFrom reference.name i.source then some (i.matched reference) else none) := by
  rw [reportedItem, ReportedImport.toJson, require_of_get? i.source_eq,
    require_of_get? i.specifiers_eq]
  show (if comesFrom reference.name i.source = true then _ else _) = _
  split <;> rfl

theorem reportedEntries_eq (imports : List ReportedImport) :
    reportedEntries reference (imports.map ReportedImport.toJson)
      = .ok ((ofPackage reference.name ReportedImport.source imports).map
        (ReportedImport.matched reference)) := by
  have hitems : (imports.map ReportedImport.toJson).mapM (reportedItem reference)
      = .ok (imports.map fun i =>
        if comesFrom reference.name i.source then some (i.matched reference) else none) := by
    rw [List.mapM_map]
    exact Outcome.mapM_ok fun i _ => reportedItem_eq reference i
  rw [reportedEntries, hitems, Outcome.ok_bind, Outcome.filterMap_ite, filter_comesFrom]
  rfl

def ReportedFile.matched (f : ReportedFile) : Json :=
  .obj [("file", f.file), ("meta", .null),
    ("result",
      .arr ((ofPackage reference.name ReportedImport.source f.imports).map
        (ReportedImport.matched reference)))]

def ReportedFile.isMatched (f : ReportedFile) : Bool :=
  f.imports.any fun i => Belongs reference.name i.source

theorem ReportedFile.isMatched_eq (f : ReportedFile) :
    f.isMatched reference
      = !(ofPackage reference.name ReportedImport.source f.imports).isEmpty := by
  rw [Bool.eq_iff_iff, isMatched, List.any_eq_true, Bool.not_eq_true',
    List.isEmpty_eq_false_iff_exists_mem]
  simp only [mem_ofPackage, decide_eq_true_iff]

theorem reportedFile?_eq (f : ReportedFile) : reportedFile? reference f.toJson
    = .ok (if f.isMatched reference then some (f.matched reference) else none) := by
  rw [reportedFile?, ReportedFile.toJson, require_of_get? f.imports_eq, require_of_get? f.file_eq,
    Outcome.ok_bind]
  show (reportedEntries reference (f.imports.map ReportedImport.toJson) >>= _) = _
  rw [reportedEntries_eq, Outcome.ok_bind, List.isEmpty_map, f.isMatched_eq]
  cases (ofPackage reference.name ReportedImport.source f.imports).isEmpty <;> rfl

theorem fromReport_eq {imports : Report} {files : List ReportedFile}
    (h : imports.output = .arr (files.map ReportedFile.toJson)) :
    fromReport imports (some reference)
      = .ok (.arr ((files.filter (ReportedFile.isMatched reference)).map
        (ReportedFile.matched reference))) := by
  have hfiles : (files.map ReportedFile.toJson).mapM (reportedFile? reference)
      = .ok (files.map fun f => if f.isMatched reference then some (f.matched reference)
        else none) := by
    rw [List.mapM_map]
    exact Outcome.mapM_ok fun f _ => reportedFile?_eq reference f
  have helements : imports.output.elements = .ok (files.map ReportedFile.toJson) := by
    rw [h]
    rfl
  simp only [fromReport, helements, Outcome.ok_bind, hfiles, Outcome.filterMap_ite]
  rfl

end Reported

theorem imports_belong_to_one_package (root : Node) (context : FileContext) (imports : Report)
    (files : List ReportedFile) (reference other : ProjectMeta)
    (h : imports.output = .arr (files.map ReportedFile.toJson)) :
    (inFile root { context with reference := some reference } = .ok {
        result :=
          (ofPackage reference.name Imports.Entry.source (Imports.collect root context.path)).map
            fun e => entry reference (.ofTexts e.specifiers) (.str e.source) })
      ∧ fromReport imports (some reference)
        = .ok (.arr ((files.filter (ReportedFile.isMatched reference)).map
          (ReportedFile.matched reference)))
      ∧ (isPackageName reference.name = true → isPackageName other.name = true →
        reference.name ≠ other.name →
        (ofPackage reference.name Imports.Entry.source (Imports.collect root context.path)).Disjoint
            (ofPackage other.name Imports.Entry.source (Imports.collect root context.path))
          ∧ ∀ file ∈ files, (ofPackage reference.name ReportedImport.source file.imports).Disjoint
            (ofPackage other.name ReportedImport.source file.imports)) := by
  refine ⟨?_, fromReport_eq reference h, fun hname hother hne => ⟨?_, fun file _ => ?_⟩⟩
  · simp only [inFile, filter_comesFrom]
  · exact disjoint_ofPackage hname hother hne _ _
  · exact disjoint_ofPackage hname hother hne _ _

section Example

def widgets : ProjectMeta := { name := "@acme/widgets", version := "1.0.0" }

def widgetsCore : ProjectMeta := { name := "@acme/widgets-core", version := "2.0.0" }

def importing (quoted : String) : Node := {
  kind := "import_statement"
  children := [{ kind := "string", role := some "source", text := some quoted }] }

def page : Node := {
  kind := "program"
  children := [importing "'@acme/widgets/button'", importing "'@acme/widgets-core'"] }

def button : Imports.Entry := ⟨["[file]"], "@acme/widgets/button", "@acme/widgets/button"⟩

def core : Imports.Entry := ⟨["[file]"], "@acme/widgets-core", "@acme/widgets-core"⟩

def pageReport : Report where
  output :=
    .arr [(ReportedFile.of "./a.js" [core]).toJson,
      (ReportedFile.of "./b.js" [button, core]).toJson]
  about := { analyzer := .str "find-imports", dialect := .str "js-like", identifier := .null, configuration := [] }

def pageContext : FileContext := { text := "", path := "./b.js", project := widgetsCore }

theorem imports_belong_to_one_package_of_widgets :
    isPackageName widgets.name = true ∧ isPackageName widgetsCore.name = true
      ∧ widgets.name ≠ widgetsCore.name ∧ Imports.collect page "./b.js" = [button, core]
      ∧ (inFile page { pageContext with reference := some widgets } = .ok {
          result := [entry widgets (.ofTexts ["[file]"]) (.str "@acme/widgets/button")] })
      ∧ (fromReport pageReport (some widgets)
        = .ok (.arr [.obj [("file", .str "./b.js"), ("meta", .null),
          ("result", .arr [entry widgets (.ofTexts ["[file]"]) (.str "@acme/widgets/button")])]]))
      ∧ (ofPackage widgets.name Imports.Entry.source (Imports.collect page "./b.js")).Disjoint
        (ofPackage widgetsCore.name Imports.Entry.source (Imports.collect page "./b.js")) := by
  have hcollect : Imports.collect page "./b.js" = [button, core] := by
    simp only [Imports.collect, Node.walk, Node.walkPending, page, importing, List.nil_append,
      List.append_nil, List.cons_append]
    decide +kernel
  have hname : isPackageName widgets.name = true := by decide +kernel
  have hother : isPackageName widgetsCore.name = true := by decide +kernel
  have hne : widgets.name ≠ widgetsCore.name := by decide
  have hkept : ofPackage widgets.name Imports.Entry.source [button, core] = [button] := by
    decide +kernel
  obtain ⟨hfile, hreport, hapart⟩ := imports_belong_to_one_package page pageContext pageReport
    [.of "./a.js" [core], .of "./b.js" [button, core]] widgets widgetsCore rfl
  rw [show pageContext.path = "./b.js" from rfl, hcollect, hkept] at hfile
  refine ⟨hname, hother, hne, hcollect, hfile, hreport.trans ?_, (hapart hname hother hne).1⟩
  rfl

end Example

end Matches

end CodeSurvey
