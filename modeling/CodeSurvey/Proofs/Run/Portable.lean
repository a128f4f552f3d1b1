import CodeSurvey.Proofs.Json.FileTexts
import CodeSurvey.Proofs.Outcome
import CodeSurvey.Proofs.Report.Decoding
import CodeSurvey.Run.Portable

namespace CodeSurvey

def Json.IsList (v : Json) : Prop := ∃ items, v = .arr items

namespace Portable

theorem names_fieldsWithSlashes (fields : Fields) :
    Fields.names (fieldsWithSlashes fields) = fields.names := by
  induction fields with
  | nil => rfl
  | cons field rest ih =>
      obtain ⟨n, v⟩ := field
      rw [fieldsWithSlashes, Fields.names, List.map_cons, ← Fields.names, ih]
      rfl

theorem fieldsWithSlashes_eq (fields : Fields) :
    fieldsWithSlashes fields = fields.map fun field =>
      (field.1, withSlashes (some field.1) field.2) := by
  induction fields with
  | nil => rfl
  | cons field rest ih => rw [fieldsWithSlashes, ih, List.map_cons]

theorem itemsWithSlashes_eq (items : List Json) :
    itemsWithSlashes items = items.map (withSlashes none) := by
  induction items with
  | nil => rfl
  | cons v rest ih => rw [itemsWithSlashes, ih, List.map_cons]

theorem withSlashes_eq (key : Option String) (v : Json) :
    withSlashes key v = v.mapFiles Path.withSlashes key := by
  induction v using Json.induct generalizing key with
  | arr items ih =>
      rw [withSlashes, itemsWithSlashes_eq, Json.mapFiles_arr]
      exact congrArg Json.arr (List.map_congr_left fun v hv => ih v hv none)
  | obj fields ih =>
      rw [withSlashes, fieldsWithSlashes_eq, Json.mapFiles_obj]
      exact congrArg Json.obj (List.map_congr_left fun field hfield =>
        congrArg (Prod.mk field.1) (ih field hfield _))
  | _ => rfl

theorem fieldsWithSlashes_eq_mapFiles (fields : Fields) :
    fieldsWithSlashes fields = fields.mapFiles Path.withSlashes := by
  rw [fieldsWithSlashes_eq, Fields.mapFiles]
  exact List.map_congr_left fun field _ => congrArg (Prod.mk field.1) (withSlashes_eq _ _)

def findings (separator : String) (output : Json) : Json :=
  if separator = "/" then stripPaths output else withSlashes none (stripPaths output)

theorem isList_findings {separator : String} {output : Json} (h : output.IsList) :
    (findings separator output).IsList := by
  obtain ⟨items, rfl⟩ := h
  unfold findings
  split
  · exact ⟨_, rfl⟩
  · exact ⟨_, rfl⟩

theorem findings_str (separator : String) (reason : String) :
    findings separator (.str reason) = .str reason := by
  unfold findings
  split <;> rfl

variable {output : Json} {c : Config} {label : Label} {target reference : Option ProjectMeta}
  {separator : String} {r : Report}

theorem report_eq_ok (h : report output c label target reference separator = .ok r) :
    ∃ fields, configuration c = .ok fields ∧ r = {
      output := findings separator output
      about := {
        analyzer := .str label.analyzer
        dialect := .str label.dialect
        identifier := .str label.identifier
        configuration := if separator = "/" then fields else fieldsWithSlashes fields
        target := target.map (·.withoutPath)
        reference := reference.map (·.withoutPath) } } := by
  obtain ⟨fields, hfields, h⟩ := Outcome.bind_eq_ok.1 h
  refine ⟨fields, hfields, (Except.ok.inj h).symm.trans ?_⟩
  rfl

theorem fromCache_report (h : report output c label target reference separator = .ok r) :
    r.about.fromCache = false := by
  obtain ⟨fields, -, rfl⟩ := report_eq_ok h
  rfl

theorem output_report (h : report output c label target reference separator = .ok r) :
    r.output = findings separator output := by
  obtain ⟨fields, -, rfl⟩ := report_eq_ok h
  rfl

theorem pathless_report (h : report output c label target reference separator = .ok r) :
    r.about.Pathless := by
  obtain ⟨fields, -, rfl⟩ := report_eq_ok h
  constructor
  · intro p hp
    obtain ⟨q, -, rfl⟩ := Option.map_eq_some_iff.1 hp
    rfl
  · intro p hp
    obtain ⟨q, -, rfl⟩ := Option.map_eq_some_iff.1 hp
    rfl

theorem report_of_configuration {fields : Fields} (h : configuration c = .ok fields) (output : Json)
    (label : Label) (target reference : Option ProjectMeta) (separator : String) :
    ∃ r, report output c label target reference separator = .ok r := by
  simp only [report, h, Outcome.ok_bind]
  exact ⟨_, rfl⟩

end Portable

end CodeSurvey
