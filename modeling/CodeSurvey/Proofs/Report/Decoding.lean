import CodeSurvey.Proofs.Outcome
import CodeSurvey.Report.Basic

namespace CodeSurvey

namespace ProjectMeta

def settled (p : ProjectMeta) : ProjectMeta :=
  { p with commit := p.commit.filter fun c => !c.isEmpty }

theorem present_of_ne_null {v : Json} (h : v ≠ .null) : v.present = some v := by
  cases v with
  | null => exact absurd rfl h
  | bool _ => rfl
  | int _ => rfl
  | real _ => rfl
  | str _ => rfl
  | arr _ => rfl
  | obj _ => rfl

theorem toJson_settled (p : ProjectMeta) : p.settled.toJson = p.toJson := by
  obtain ⟨name, version, path, commit⟩ := p
  cases commit with
  | none => rfl
  | some c =>
      cases hc : c.isEmpty with
      | true => simp [toJson, toFields, settled, Option.filter, hc]
      | false => simp [toJson, toFields, settled, Option.filter, hc]

theorem settled_settled (p : ProjectMeta) : p.settled.settled = p.settled := by
  simp only [settled, Option.filter_filter, Bool.and_self]

def Definite (p : ProjectMeta) : Prop := p.path ≠ some .null

theorem Definite.present {p : ProjectMeta} (h : p.Definite) :
    (p.path.getD .null).present = p.path := by
  cases hpath : p.path with
  | none => rfl
  | some v => exact present_of_ne_null fun hnull => h (hpath.trans (congrArg some hnull))

theorem definite_of_pathless {p : ProjectMeta} (h : p.path = none) : p.Definite := by
  rw [Definite, h]
  exact nofun

theorem definite_ofJson {v : Json} {p : ProjectMeta} (h : ofJson v = .ok p) : p.Definite := by
  obtain ⟨name, -, h⟩ := Outcome.bind_eq_ok.1 h
  obtain ⟨version, -, h⟩ := Outcome.bind_eq_ok.1 h
  obtain ⟨path, -, h⟩ := Outcome.bind_eq_ok.1 h
  obtain ⟨commit, -, h⟩ := Outcome.bind_eq_ok.1 h
  obtain rfl := Except.ok.inj h
  cases path <;> simp [Definite, Json.present]

theorem definite_ofJson? {v : Json} {p : Option ProjectMeta} (h : ofJson? v = .ok p) :
    ∀ q ∈ p, q.Definite := by
  unfold ofJson? at h
  split at h
  · obtain rfl := Except.ok.inj h
    exact fun _ hq => absurd hq (by simp)
  · obtain ⟨q, hq, rfl⟩ := Outcome.map_eq_ok.1 h
    intro m hm
    obtain rfl := Option.some.inj hm
    exact definite_ofJson hq

theorem get?_path (p : ProjectMeta) : Fields.get? p.toFields "path" = p.path := by
  obtain ⟨name, version, path, commit⟩ := p
  cases commit with
  | none => cases path <;> rfl
  | some c =>
      cases hc : c.isEmpty <;> simp only [toFields, hc] <;> cases path <;> rfl

theorem get?_commit (p : ProjectMeta) : Fields.get? p.toFields "commitHash" = p.settled.commit := by
  obtain ⟨name, version, path, commit⟩ := p
  cases commit with
  | none => cases path <;> rfl
  | some c =>
      cases hc : c.isEmpty <;> simp only [toFields, settled, Option.filter, hc] <;>
        cases path <;> rfl

theorem present_commit (p : ProjectMeta) :
    (p.settled.commit.getD .null).present = p.settled.commit := by
  cases hc : p.settled.commit with
  | none => rfl
  | some c =>
      obtain ⟨-, hne⟩ := Option.filter_eq_some_iff.1 hc
      refine present_of_ne_null fun hnull => ?_
      obtain rfl : c = .null := hnull
      exact absurd hne (by decide)

theorem ofJson_toJson {p : ProjectMeta} (h : p.Definite) : ofJson p.toJson = .ok p.settled := by
  have hname : Fields.get? p.toFields "name" = some (.str p.name) := rfl
  have hversion : Fields.get? p.toFields "version" = some (.str p.version) := rfl
  simp only [ofJson, toJson, Json.get, Json.getOr, hname, hversion, get?_path,
    get?_commit, h.present, present_commit, bind, Except.bind, Option.getD_some, Json.display]
  rfl

theorem ofJson?_toJson {p : ProjectMeta} (h : p.Definite) :
    ofJson? p.toJson = .ok (some p.settled) := by
  have hne : p.toJson.isEmpty = false := rfl
  rw [ofJson?, if_neg (by simp [hne]), ofJson_toJson h]
  rfl

end ProjectMeta

namespace ReportMeta

structure Pathless (m : ReportMeta) : Prop where
  target : ∀ p ∈ m.target, p.path = none
  reference : ∀ p ∈ m.reference, p.path = none

structure Definite (m : ReportMeta) : Prop where
  target : ∀ p ∈ m.target, p.Definite
  reference : ∀ p ∈ m.reference, p.Definite

theorem Pathless.definite {m : ReportMeta} (h : m.Pathless) : m.Definite :=
  ⟨fun p hp => ProjectMeta.definite_of_pathless (h.target p hp),
    fun p hp => ProjectMeta.definite_of_pathless (h.reference p hp)⟩

def settled (m : ReportMeta) : ReportMeta :=
  { m with
    target := m.target.map ProjectMeta.settled
    reference := m.reference.map ProjectMeta.settled }

theorem Pathless.settled {m : ReportMeta} (h : m.Pathless) : m.settled.Pathless := by
  constructor
  · intro p hp
    obtain ⟨q, hq, rfl⟩ := Option.map_eq_some_iff.1 hp
    exact h.target q hq
  · intro p hp
    obtain ⟨q, hq, rfl⟩ := Option.map_eq_some_iff.1 hp
    exact h.reference q hq

theorem settled_settled (m : ReportMeta) : m.settled.settled = m.settled := by
  simp only [settled, Option.map_map, Function.comp_def, ProjectMeta.settled_settled]

theorem toJson_settled (m : ReportMeta) : m.settled.toJson = m.toJson := by
  simp only [toJson, toFields, settled, Option.map_map, Function.comp_def,
    ProjectMeta.toJson_settled]
  rfl

section Fields

variable (m : ReportMeta)

theorem get?_name : Fields.get? m.toFields "name" = some m.analyzer := rfl

theorem get?_dialect : Fields.get? m.toFields "requiredAstDialect" = some m.dialect := rfl

theorem get?_identifier : Fields.get? m.toFields "identifier" = some m.identifier := rfl

theorem get?_target : Fields.get? m.toFields "targetProject" = m.target.map ProjectMeta.toJson := by
  obtain ⟨_, _, _, _, target, reference, fromCache⟩ := m
  cases target <;> cases reference <;> cases fromCache <;> rfl

theorem get?_reference :
    Fields.get? m.toFields "referenceProject" = m.reference.map ProjectMeta.toJson := by
  obtain ⟨_, _, _, _, target, reference, fromCache⟩ := m
  cases target <;> cases reference <;> cases fromCache <;> rfl

theorem get?_configuration :
    Fields.get? m.toFields "configuration" = some (.obj m.configuration) := by
  obtain ⟨_, _, _, _, target, reference, fromCache⟩ := m
  cases target <;> cases reference <;> cases fromCache <;> rfl

theorem get?_fromCache :
    Fields.get? m.toFields "__fromCache" = if m.fromCache then some (.bool true) else none := by
  obtain ⟨_, _, _, _, target, reference, fromCache⟩ := m
  cases target <;> cases reference <;> cases fromCache <;> rfl

end Fields

theorem ofJson?_option {p : Option ProjectMeta} (h : ∀ q ∈ p, q.Definite) :
    ProjectMeta.ofJson? ((p.map ProjectMeta.toJson).getD .null)
      = .ok (p.map ProjectMeta.settled) := by
  cases p with
  | none => rfl
  | some q => exact ProjectMeta.ofJson?_toJson (h q rfl)

structure ReadsFrom (m : ReportMeta) (v : Json) : Prop where
  analyzer : v.getOr "name" (.str "") = .ok m.analyzer
  dialect : v.getOr "requiredAstDialect" (.str "") = .ok m.dialect
  identifier : v.getOr "identifier" (.str "") = .ok m.identifier
  configuration : ∃ u, v.getOr "configuration" (.obj []) = .ok u ∧ u.asFields = .ok m.configuration
  target : ∃ u, v.get "targetProject" = .ok u ∧ ProjectMeta.ofJson? u = .ok m.target
  reference : ∃ u, v.get "referenceProject" = .ok u ∧ ProjectMeta.ofJson? u = .ok m.reference

theorem readsFrom_of_ofJson {v : Json} {m : ReportMeta} (h : ofJson v = .ok m) : m.ReadsFrom v := by
  obtain ⟨target, htarget, h⟩ := Outcome.bind_eq_ok.1 h
  obtain ⟨reference, hreference, h⟩ := Outcome.bind_eq_ok.1 h
  obtain ⟨analyzer, hanalyzer, h⟩ := Outcome.bind_eq_ok.1 h
  obtain ⟨dialect, hdialect, h⟩ := Outcome.bind_eq_ok.1 h
  obtain ⟨identifier, hidentifier, h⟩ := Outcome.bind_eq_ok.1 h
  obtain ⟨value, hvalue, h⟩ := Outcome.bind_eq_ok.1 h
  obtain ⟨configuration, hconfiguration, h⟩ := Outcome.bind_eq_ok.1 h
  obtain ⟨p, hp, h⟩ := Outcome.bind_eq_ok.1 h
  obtain ⟨q, hq, h⟩ := Outcome.bind_eq_ok.1 h
  obtain ⟨mark, -, h⟩ := Outcome.bind_eq_ok.1 h
  obtain rfl := Except.ok.inj h
  exact ⟨hanalyzer, hdialect, hidentifier, ⟨value, hvalue, hconfiguration⟩, ⟨target, htarget, hp⟩,
    ⟨reference, hreference, hq⟩⟩

theorem definite_ofJson {v : Json} {m : ReportMeta} (h : ofJson v = .ok m) : m.Definite := by
  have hreads := readsFrom_of_ofJson h
  obtain ⟨target, -, htarget⟩ := hreads.target
  obtain ⟨reference, -, hreference⟩ := hreads.reference
  exact ⟨ProjectMeta.definite_ofJson? htarget, ProjectMeta.definite_ofJson? hreference⟩

theorem ofJson_toJson {m : ReportMeta} (h : m.Definite) : ofJson m.toJson = .ok m.settled := by
  have hmark :
      (!(((if m.fromCache then some (Json.bool true) else none).getD (.bool false)).isEmpty))
        = m.fromCache := by
    cases m.fromCache <;> rfl
  simp only [ofJson, toJson, Json.get, Json.getOr, get?_name, get?_dialect, get?_identifier,
    get?_target, get?_reference, get?_configuration, get?_fromCache, bind, Except.bind,
    Option.getD_some, Json.asFields, ofJson?_option h.target, ofJson?_option h.reference, hmark]
  rfl

end ReportMeta

namespace Report

def settled (r : Report) : Report :=
  { r with about := r.about.settled }

theorem settled_settled (r : Report) : r.settled.settled = r.settled := by
  simp only [settled, ReportMeta.settled_settled]

theorem toPlain_settled (r : Report) : r.settled.toPlain = r.toPlain := by
  simp only [toPlain, settled, ReportMeta.toJson_settled]

theorem toWrapped_settled (r : Report) : r.settled.toWrapped = r.toWrapped := by
  simp only [toWrapped, settled, ReportMeta.toJson_settled]

theorem mark_settled (r : Report) (fromCache : Bool) :
    r.settled.mark fromCache = (r.mark fromCache).settled := rfl

theorem ofJson_toWrapped {r : Report} (h : r.about.Definite) :
    ofJson r.toWrapped = .ok r.settled := by
  have habout : aboutOf r.toWrapped = .ok r.about.toJson := rfl
  simp only [ofJson, habout, bind, Except.bind, ReportMeta.ofJson_toJson h]
  rfl

theorem ofJson_toPlain {r : Report} (h : r.about.Definite) : ofJson r.toPlain = .ok r.settled := by
  have habout : aboutOf r.toPlain = .ok r.about.toJson := rfl
  simp only [ofJson, habout, bind, Except.bind, ReportMeta.ofJson_toJson h]
  rfl

end Report

end CodeSurvey
