import CodeSurvey.Proofs.Json.Access
import CodeSurvey.Proofs.Report.Decoding

namespace CodeSurvey

namespace ProjectMeta

structure Proper (p : ProjectMeta) : Prop where
  path : ∀ v ∈ p.path, v.Proper
  commit : ∀ v ∈ p.commit, v.Proper

theorem Proper.withoutPath {p : ProjectMeta} (h : p.Proper) : p.withoutPath.Proper :=
  ⟨fun _ hv => absurd hv (by simp [ProjectMeta.withoutPath]), h.commit⟩

theorem Proper.toJson {p : ProjectMeta} (h : p.Proper) : p.toJson.Proper := by
  obtain ⟨name, version, path, commit⟩ := p
  obtain ⟨hpath, hcommit⟩ := h
  have hlead {rest : Fields} (hname : "name" ∉ rest.names) (hversion : "version" ∉ rest.names)
      (hrest : rest.Proper) :
      (Json.obj (("name", .str name) :: ("version", .str version) :: rest)).Proper :=
    Fields.proper_cons (by simpa [Fields.names] using hname) (.str name)
      (Fields.proper_cons hversion (.str version) hrest)
  have hlast {n : String} {v : Json} (hv : v.Proper) : Fields.Proper [(n, v)] :=
    Fields.proper_cons List.not_mem_nil hv Fields.proper_nil
  unfold ProjectMeta.toJson toFields
  cases commit with
  | none =>
      cases path with
      | none => exact hlead (by simp [Fields.names]) (by simp [Fields.names]) Fields.proper_nil
      | some v =>
          exact hlead (by simp [Fields.names]) (by simp [Fields.names]) (hlast (hpath v rfl))
  | some c =>
      have hc := hcommit c rfl
      cases path with
      | none =>
          simp only []
          split
          · exact hlead (by simp [Fields.names]) (by simp [Fields.names]) Fields.proper_nil
          · exact hlead (by simp [Fields.names]) (by simp [Fields.names]) (hlast hc)
      | some v =>
          simp only []
          split
          · exact hlead (by simp [Fields.names]) (by simp [Fields.names]) (hlast (hpath v rfl))
          · exact hlead (by simp [Fields.names]) (by simp [Fields.names])
              (Fields.proper_cons (by simp [Fields.names]) hc (hlast (hpath v rfl)))

theorem proper_ofJson {v : Json} {p : ProjectMeta} (hv : v.Proper) (h : ofJson v = .ok p) :
    p.Proper := by
  obtain ⟨name, -, h⟩ := Outcome.bind_eq_ok.1 h
  obtain ⟨version, -, h⟩ := Outcome.bind_eq_ok.1 h
  obtain ⟨path, hpath, h⟩ := Outcome.bind_eq_ok.1 h
  obtain ⟨commit, hcommit, h⟩ := Outcome.bind_eq_ok.1 h
  obtain rfl := Except.ok.inj h
  exact ⟨fun _ hu => (hv.get hpath).present hu, fun _ hu => (hv.get hcommit).present hu⟩

theorem proper_ofJson? {v : Json} {p : Option ProjectMeta} (hv : v.Proper) (h : ofJson? v = .ok p) :
    ∀ q ∈ p, q.Proper := by
  unfold ofJson? at h
  split at h
  · obtain rfl := Except.ok.inj h
    exact fun _ hq => absurd hq (by simp)
  · obtain ⟨q, hq, rfl⟩ := Outcome.map_eq_ok.1 h
    intro r hr
    obtain rfl := Option.some.inj hr
    exact proper_ofJson hv hq

end ProjectMeta

namespace ReportMeta

structure Proper (m : ReportMeta) : Prop where
  analyzer : m.analyzer.Proper
  dialect : m.dialect.Proper
  identifier : m.identifier.Proper
  configuration : m.configuration.Proper
  target : ∀ p ∈ m.target, p.Proper
  reference : ∀ p ∈ m.reference, p.Proper

theorem names_toFields (m : ReportMeta) : (Fields.names m.toFields).Nodup := by
  obtain ⟨_, _, _, _, target, reference, fromCache⟩ := m
  cases target <;> cases reference <;> cases fromCache <;> simp [toFields, Fields.names]

theorem Proper.toJson {m : ReportMeta} (h : m.Proper) : m.toJson.Proper := by
  refine .obj m.names_toFields fun field hfield => ?_
  simp only [toFields, List.mem_append, List.mem_cons, List.not_mem_nil, or_false,
    Option.mem_toList, Option.map_eq_some_iff] at hfield
  rcases hfield with (((( rfl | rfl | rfl) | ⟨p, hp, rfl⟩) | ⟨p, hp, rfl⟩) | rfl) | hmark
  · exact h.analyzer
  · exact h.dialect
  · exact h.identifier
  · exact (h.target p hp).toJson
  · exact (h.reference p hp).toJson
  · exact h.configuration
  · split at hmark
    · rw [List.mem_singleton.1 hmark]
      exact .bool true
    · exact absurd hmark List.not_mem_nil

theorem proper_ofJson {v : Json} {m : ReportMeta} (hv : v.Proper) (h : ofJson v = .ok m) :
    m.Proper := by
  have hreads := readsFrom_of_ofJson h
  obtain ⟨value, hvalue, hconfiguration⟩ := hreads.configuration
  obtain ⟨target, htarget, hp⟩ := hreads.target
  obtain ⟨reference, hreference, hq⟩ := hreads.reference
  exact {
    analyzer := hv.getOr (.str "") hreads.analyzer
    dialect := hv.getOr (.str "") hreads.dialect
    identifier := hv.getOr (.str "") hreads.identifier
    configuration := (hv.getOr Fields.proper_nil hvalue).asFields hconfiguration
    target := ProjectMeta.proper_ofJson? (hv.get htarget) hp
    reference := ProjectMeta.proper_ofJson? (hv.get hreference) hq }

end ReportMeta

namespace Report

structure Proper (r : Report) : Prop where
  output : r.output.Proper
  about : r.about.Proper

theorem Proper.mark {r : Report} (h : r.Proper) (fromCache : Bool) : (r.mark fromCache).Proper :=
  ⟨h.output, ⟨h.about.analyzer, h.about.dialect, h.about.identifier, h.about.configuration,
    h.about.target, h.about.reference⟩⟩

theorem Proper.toPlain {r : Report} (h : r.Proper) : r.toPlain.Proper :=
  Fields.proper_cons (by simp [Fields.names]) h.output
    (Fields.proper_cons List.not_mem_nil h.about.toJson Fields.proper_nil)

theorem Proper.toWrapped {r : Report} (h : r.Proper) : r.toWrapped.Proper := by
  have hmeta : Fields.Proper [("analyzerMeta", r.about.toJson)] :=
    Fields.proper_cons List.not_mem_nil h.about.toJson Fields.proper_nil
  exact Fields.proper_cons (by simp [Fields.names]) h.output
    (Fields.proper_cons List.not_mem_nil hmeta Fields.proper_nil)

theorem proper_aboutOf {v about : Json} (hv : v.Proper) (h : aboutOf v = .ok about) :
    about.Proper := by
  unfold aboutOf at h
  split at h
  · split at h
    · rename_i hget
      exact Except.ok.inj h ▸ Fields.Proper.get hv hget
    · obtain ⟨inner, hinner, h⟩ := Outcome.bind_eq_ok.1 h
      exact (hv.require hinner).require h
  · exact absurd h (by simp)

theorem proper_ofJson {v : Json} {r : Report} (hv : v.Proper) (h : ofJson v = .ok r) :
    r.Proper := by
  obtain ⟨about, habout, h⟩ := Outcome.bind_eq_ok.1 h
  obtain ⟨output, houtput, h⟩ := Outcome.bind_eq_ok.1 h
  obtain ⟨m, hm, h⟩ := Outcome.bind_eq_ok.1 h
  obtain rfl := Except.ok.inj h
  exact ⟨hv.require houtput, ReportMeta.proper_ofJson (proper_aboutOf hv habout) hm⟩

end Report

namespace Provided

def Proper : Provided → Prop
  | report r => r.Proper
  | raw v => v.Proper

theorem Proper.unwind {p : Provided} {r : Report} (hp : p.Proper) (h : p.unwind = .ok r) :
    r.Proper := by
  cases p with
  | report s => exact Except.ok.inj h ▸ hp
  | raw v => exact Report.proper_ofJson hp h

theorem Proper.portable {p : Provided} {v : Json} (hp : p.Proper) (h : p.portable = .ok v) :
    v.Proper := by
  obtain ⟨r, hr, rfl⟩ := Outcome.map_eq_ok.1 h
  exact ((hp.unwind hr).mark false).toPlain

end Provided

end CodeSurvey
