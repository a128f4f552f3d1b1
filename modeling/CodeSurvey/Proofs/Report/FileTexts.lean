import CodeSurvey.Proofs.Json.FileTexts
import CodeSurvey.Proofs.Report.Misshapen

namespace CodeSurvey

variable (f : String → String) {key : Option String} {v : Json}

namespace ProjectMeta

def mapFiles (p : ProjectMeta) : ProjectMeta :=
  { p with path := p.path.map (Json.mapFiles f none), commit := p.commit.map (Json.mapFiles f
    none) }

theorem toFields_mapFiles (p : ProjectMeta) : (p.mapFiles f).toFields = p.toFields.mapFiles f := by
  have hpath (w : Json) : w.mapFiles f (some "path") = w.mapFiles f none :=
    Json.mapFiles_of_ne f (by decide) w
  have hcommit (w : Json) : w.mapFiles f (some "commitHash") = w.mapFiles f none :=
    Json.mapFiles_of_ne f (by decide) w
  have hempty (w : Json) : (w.mapFiles f none).isEmpty = w.isEmpty :=
    Json.isEmpty_mapFiles f (by decide) w
  obtain ⟨name, version, path, commit⟩ := p
  cases commit with
  | none => cases path <;> simp [toFields, mapFiles, Fields.mapFiles, Json.mapFiles, hpath]
  | some c =>
      cases hc : c.isEmpty <;> cases path <;>
        simp [toFields, mapFiles, Fields.mapFiles, Json.mapFiles, hpath, hcommit, hempty, hc]

theorem toJson_mapFiles (key : Option String) (p : ProjectMeta) :
    (p.mapFiles f).toJson = p.toJson.mapFiles f key := by
  rw [toJson, toJson, Json.mapFiles_obj, toFields_mapFiles]

def Documented (v : Json) : Prop :=
  v.isEmpty = true ∨ ∃ fields : Fields, v = .obj fields
    ∧ ∀ name, name = "name" ∨ name = "version" → ∀ u, fields.get? name = some u → ∃ s, u = .str s

theorem ofJson_obj (fields : Fields) : ofJson (.obj fields) = .ok
    { name := ((fields.get? "name").getD (.str "")).display
      version := ((fields.get? "version").getD (.str "")).display
      path := ((fields.get? "path").getD .null).present
      commit := ((fields.get? "commitHash").getD .null).present } := rfl

theorem ofJson?_mapFiles (hkey : key ≠ some "file") (h : Documented v) :
    ofJson? (v.mapFiles f key) = Option.map (mapFiles f) <$> ofJson? v := by
  rw [ofJson?, ofJson?, Json.isEmpty_mapFiles f hkey]
  split
  · rfl
  · rename_i hempty
    obtain ⟨fields, rfl, htexts⟩ := h.resolve_left hempty
    have htext {name : String} (hname : name = "name" ∨ name = "version") :
        (((fields.mapFiles f).get? name).getD (.str "")) = (fields.get? name).getD (.str "") := by
      have hne : some name ≠ some "file" := by rcases hname with rfl | rfl <;> decide
      rw [Fields.get?_mapFiles]
      cases hu : fields.get? name with
      | none => rfl
      | some u =>
          obtain ⟨s, rfl⟩ := htexts name hname u hu
          exact Json.mapFiles_str f hne s
    have hpart (name : String) (hne : some name ≠ some "file") :
        (((fields.mapFiles f).get? name).getD .null).present
        = ((fields.get? name).getD .null).present.map (Json.mapFiles f none) := by
      rw [Fields.getD_mapFiles f fields name rfl, Json.mapFiles_of_ne f hne, Json.present_mapFiles]
    rw [Json.mapFiles_obj, ofJson_obj, ofJson_obj, htext (.inl rfl), htext (.inr rfl),
      hpart "path" (by decide), hpart "commitHash" (by decide)]
    rfl

theorem exists_ofJson?_of_documented (h : Documented v) : ∃ p, ofJson? v = .ok p := by
  refine exists_ofJson? ?_
  rintro ⟨hempty, hobject⟩
  rcases h with h | ⟨fields, rfl, -⟩
  · exact absurd h (by simp [hempty])
  · exact hobject fields rfl

end ProjectMeta

namespace ReportMeta

def mapFiles (m : ReportMeta) : ReportMeta :=
  { m with
    analyzer := m.analyzer.mapFiles f none
    dialect := m.dialect.mapFiles f none
    identifier := m.identifier.mapFiles f none
    configuration := m.configuration.mapFiles f
    target := m.target.map (ProjectMeta.mapFiles f)
    reference := m.reference.map (ProjectMeta.mapFiles f) }

theorem toJson_mapFiles (key : Option String) (m : ReportMeta) :
    (m.mapFiles f).toJson = m.toJson.mapFiles f key := by
  have hpart (name : String) (hne : some name ≠ some "file") (w : Json) :
      w.mapFiles f (some name) = w.mapFiles f none :=
    Json.mapFiles_of_ne f hne w
  have hproject (p : ProjectMeta) : (p.mapFiles f).toJson = p.toJson.mapFiles f none :=
    p.toJson_mapFiles f none
  have hfields : (m.mapFiles f).toFields = m.toFields.mapFiles f := by
    obtain ⟨analyzer, dialect, identifier, configuration, target, reference, fromCache⟩ := m
    cases target <;> cases reference <;> cases fromCache <;>
      simp [toFields, mapFiles, Fields.mapFiles, hpart, hproject, Json.mapFiles_obj] <;> rfl
  rw [toJson, toJson, Json.mapFiles_obj, hfields]

structure Documented (fields : Fields) : Prop where
  configuration : ∀ u, fields.get? "configuration" = some u → ∃ settings, u = .obj settings
  target : ∀ u, fields.get? "targetProject" = some u → ProjectMeta.Documented u
  reference : ∀ u, fields.get? "referenceProject" = some u → ProjectMeta.Documented u

section Reading

variable {fields : Fields}

theorem exists_configurationOf (h : Documented fields) :
    ∃ settings : Fields, configurationOf fields = .obj settings := by
  unfold configurationOf
  cases hu : fields.get? "configuration" with
  | none => exact ⟨[], rfl⟩
  | some u => exact h.configuration u hu

theorem documented_getD {name : String}
    (h : ∀ u, fields.get? name = some u → ProjectMeta.Documented u) :
    ProjectMeta.Documented ((fields.get? name).getD .null) := by
  cases hu : fields.get? name with
  | none => exact .inl rfl
  | some u => exact h u hu

theorem ofJson_mapFiles (h : Documented fields) :
    ofJson (.obj (fields.mapFiles f)) = mapFiles f <$> ofJson (.obj fields) := by
  obtain ⟨settings, hsettings⟩ := exists_configurationOf h
  have hsettings' : configurationOf (fields.mapFiles f) = .obj (settings.mapFiles f) := by
    rw [configurationOf, Fields.getD_mapFiles f fields _ rfl, ← configurationOf, hsettings,
      Json.mapFiles_obj]
  have htext (name : String) (hne : some name ≠ some "file") :
      (((fields.mapFiles f).get? name).getD (.str ""))
      = ((fields.get? name).getD (.str "")).mapFiles f none := by
    rw [Fields.getD_mapFiles f fields name (Json.mapFiles_str f hne ""), Json.mapFiles_of_ne f hne]
  have hmark : (((fields.mapFiles f).get? "__fromCache").getD (.bool false)).isEmpty
      = ((fields.get? "__fromCache").getD (.bool false)).isEmpty := by
    rw [Fields.getD_mapFiles f fields _ rfl, Json.isEmpty_mapFiles f (by decide)]
  have hproject (name : String) (hne : some name ≠ some "file")
      (hdocumented : ∀ u, fields.get? name = some u → ProjectMeta.Documented u) :
      ProjectMeta.ofJson? (((fields.mapFiles f).get? name).getD .null)
        = Option.map (ProjectMeta.mapFiles f) <$> ProjectMeta.ofJson?
          ((fields.get? name).getD .null) := by
    rw [Fields.getD_mapFiles f fields name rfl]
    exact ProjectMeta.ofJson?_mapFiles f hne (documented_getD hdocumented)
  obtain ⟨target, htarget⟩ := ProjectMeta.exists_ofJson?_of_documented (documented_getD h.target)
  obtain ⟨reference, hreference⟩ :=
    ProjectMeta.exists_ofJson?_of_documented (documented_getD h.reference)
  rw [ofJson_obj, ofJson_obj, hsettings, hsettings', hproject _ (by decide) h.target,
    hproject _ (by decide) h.reference, htarget, hreference, htext "name" (by decide),
    htext "requiredAstDialect" (by decide), htext "identifier" (by decide), hmark]
  rfl

theorem exists_ofJson_of_documented (h : Documented fields) :
    ∃ m, ofJson (.obj fields) = .ok m := by
  obtain ⟨settings, hsettings⟩ := exists_configurationOf h
  obtain ⟨target, htarget⟩ := ProjectMeta.exists_ofJson?_of_documented (documented_getD h.target)
  obtain ⟨reference, hreference⟩ :=
    ProjectMeta.exists_ofJson?_of_documented (documented_getD h.reference)
  rw [ofJson_obj, hsettings, htarget, hreference]
  exact ⟨_, rfl⟩

end Reading

end ReportMeta

namespace Report

def mapFiles (r : Report) : Report :=
  { output := r.output.mapFiles f none, about := r.about.mapFiles f }

theorem portable_mapFiles (key : Option String) (r : Report) :
    (r.mapFiles f).portable = r.portable.mapFiles f key := by
  have habout : (r.mark false).about.toJson.mapFiles f (some "analyzerMeta")
      = ((r.mapFiles f).mark false).about.toJson :=
    (ReportMeta.toJson_mapFiles f _ (r.mark false).about).symm
  have houtput : (r.mark false).output.mapFiles f (some "queryOutput")
      = ((r.mapFiles f).mark false).output :=
    Json.mapFiles_of_ne f (by decide) r.output
  rw [portable, portable, toPlain, toPlain, Json.mapFiles_obj, Fields.mapFiles, List.map_cons,
    List.map_singleton, habout, houtput]

theorem aboutOf_mapFiles (key : Option String) (v : Json) :
    aboutOf (v.mapFiles f key) = Json.mapFiles f (some "analyzerMeta") <$> aboutOf v := by
  cases v with
  | obj fields =>
      have hmeta := Json.require_mapFiles f key (.obj fields) "meta"
      rw [Json.mapFiles_obj] at hmeta ⊢
      simp only [aboutOf, Fields.get?_mapFiles, hmeta]
      cases Fields.get? fields "analyzerMeta" with
      | some about => rfl
      | none =>
          simp only [Option.map_none]
          cases (Json.obj fields).require "meta" with
          | error e => rfl
          | ok inner => exact Json.require_mapFiles f (some "meta") inner "analyzerMeta"
  | str s =>
      rw [Json.mapFiles]
      split <;> rfl
  | _ => rfl

structure Documented (v : Json) : Prop where
  output : ∃ output, v.require "queryOutput" = .ok output
  about : ∃ fields, aboutOf v = .ok (.obj fields) ∧ ReportMeta.Documented fields

theorem ofJson_mapFiles (key : Option String) (h : Documented v) :
    ofJson (v.mapFiles f key) = mapFiles f <$> ofJson v := by
  obtain ⟨output, houtput⟩ := h.output
  obtain ⟨fields, hfields, hdocumented⟩ := h.about
  have hkept : output.mapFiles f (some "queryOutput") = output.mapFiles f none :=
    Json.mapFiles_of_ne f (by decide) _
  rw [ofJson, ofJson, aboutOf_mapFiles, hfields, Json.require_mapFiles, houtput, Outcome.map_ok,
    Outcome.map_ok, Outcome.ok_bind, Outcome.ok_bind, Outcome.ok_bind, Outcome.ok_bind,
    Json.mapFiles_obj, ReportMeta.ofJson_mapFiles f hdocumented, hkept]
  cases ReportMeta.ofJson (.obj fields) <;> rfl

theorem exists_ofJson_of_documented (h : Documented v) : ∃ r, ofJson v = .ok r := by
  obtain ⟨output, houtput⟩ := h.output
  obtain ⟨fields, hfields, hdocumented⟩ := h.about
  obtain ⟨m, hm⟩ := ReportMeta.exists_ofJson_of_documented hdocumented
  rw [ofJson, hfields, houtput, Outcome.ok_bind, Outcome.ok_bind, hm]
  exact ⟨_, rfl⟩

end Report

namespace Provided

def mapFiles : Provided → Provided
  | report r => report (r.mapFiles f)
  | raw value => raw (value.mapFiles f none)

def written : Provided → Json
  | report r => r.portable
  | raw value => value

def Documented : Provided → Prop
  | report _ => True
  | raw value => Report.Documented value

theorem portable_mapFiles {p : Provided} (key : Option String) (h : p.Documented) :
    (p.mapFiles f).portable = Json.mapFiles f key <$> p.portable := by
  cases p with
  | report r => exact congrArg Except.ok (r.portable_mapFiles f key)
  | raw value =>
      have hread : Report.ofJson (value.mapFiles f none)
          = Report.mapFiles f <$> Report.ofJson value :=
        Report.ofJson_mapFiles f none h
      rw [mapFiles, portable, portable, unwind, unwind, hread]
      cases Report.ofJson value with
      | error e => rfl
      | ok r => exact congrArg Except.ok (r.portable_mapFiles f key)

theorem exists_portable {p : Provided} (h : p.Documented) : ∃ kept, p.portable = .ok kept := by
  cases p with
  | report r => exact ⟨_, rfl⟩
  | raw value =>
      obtain ⟨r, hr⟩ := Report.exists_ofJson_of_documented h
      exact ⟨r.portable, by rw [portable, unwind, hr, Outcome.map_ok]⟩

theorem portable_mapFiles_of_fixed {f : String → String} {p : Provided}
    (h : ∀ s ∈ p.written.fileTexts none, f s = s) :
    (p.mapFiles f).portable = p.portable := by
  cases p with
  | report r =>
      have hkept : r.portable.mapFiles f none = r.portable := Json.mapFiles_eq_self h
      exact congrArg Except.ok ((r.portable_mapFiles f none).trans hkept)
  | raw value =>
      have hvalue : value.mapFiles f none = value := Json.mapFiles_eq_self h
      rw [mapFiles, hvalue]

end Provided

end CodeSurvey
