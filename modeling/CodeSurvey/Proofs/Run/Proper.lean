import CodeSurvey.Proofs.Analysis.Proper
import CodeSurvey.Proofs.Report.Proper
import CodeSurvey.Proofs.Run.Portable
import CodeSurvey.Proofs.Run.Traversal
import CodeSurvey.Run.Disk

namespace CodeSurvey

namespace Scope

structure Proper (s : Scope) : Prop where
  extensions : ∀ v ∈ s.extensions, v.Proper
  allowlist : ∀ v ∈ s.allowlist, v.Proper

theorem Proper.toJson {s : Scope} (h : s.Proper) : s.toJson.Proper :=
  Fields.proper_cons (by simp [Fields.names]) (.arr h.extensions)
    (Fields.proper_cons List.not_mem_nil (.arr h.allowlist) Fields.proper_nil)

end Scope

namespace Config

structure Proper (c : Config) : Prop where
  gather : ∀ s, c.gather = .scope s → s.Proper
  gatherReference : ∀ s, c.gatherReference = .scope s → s.Proper
  targetResult : ∀ p ∈ c.targetResult, p.Proper
  referenceResult : ∀ p ∈ c.referenceResult, p.Proper
  options : c.options.Proper

theorem proper_putSome (name : String) {fields : Fields} {value : Option Json} (h : fields.Proper)
    (hv : ∀ v ∈ value, v.Proper) : (putSome fields name value).Proper := by
  cases value with
  | none => exact h
  | some v => exact h.put name (hv v rfl)

theorem proper_scope {s : ScopeSetting} {value : Option Json}
    (hs : ∀ scope, s = .scope scope → scope.Proper) (h : s.toJson? = .ok value) :
    ∀ v ∈ value, v.Proper := by
  intro v hv
  cases s with
  | unset =>
      obtain rfl := Except.ok.inj h
      exact absurd hv (by simp)
  | scope scope =>
      obtain rfl := Except.ok.inj h
      obtain rfl := Option.some.inj hv
      exact (hs scope rfl).toJson
  | malformed => exact absurd h (by simp [ScopeSetting.toJson?])

theorem proper_results {p : Option Provided} {value : Option Json} (hp : ∀ q ∈ p, q.Proper)
    (h : p.mapM Provided.portable = .ok value) : ∀ v ∈ value, v.Proper := by
  intro v hv
  cases p with
  | none =>
      obtain rfl := Except.ok.inj h
      exact absurd hv (by simp)
  | some q =>
      obtain ⟨u, hu, rfl⟩ := Outcome.map_eq_ok.1 h
      obtain rfl := Option.some.inj hv
      exact (hp q rfl).portable hu

theorem proper_toFields {c : Config} {fields : Fields} (hc : c.Proper)
    (h : c.toFields = .ok fields) :
    fields.Proper := by
  obtain ⟨gather, hgather, h⟩ := Outcome.bind_eq_ok.1 h
  obtain ⟨gatherReference, hreference, h⟩ := Outcome.bind_eq_ok.1 h
  obtain ⟨target, htarget, h⟩ := Outcome.bind_eq_ok.1 h
  obtain ⟨reference, hresult, h⟩ := Outcome.bind_eq_ok.1 h
  obtain rfl := Except.ok.inj h
  have htext (path : Option String) : ∀ v ∈ path.map Json.str, v.Proper := by
    intro v hv
    obtain ⟨s, -, rfl⟩ := Option.map_eq_some_iff.1 hv
    exact .str s
  refine proper_putSome _ (proper_putSome _ ?_ (proper_results hc.targetResult htarget))
    (proper_results hc.referenceResult hresult)
  have hpaths := proper_putSome referencePathKey
    (proper_putSome targetPathKey hc.options (htext c.targetPath)) (htext c.referencePath)
  have hscopes := proper_putSome "gatherFilesConfigReference"
    (proper_putSome "gatherFilesConfig" hpaths (proper_scope hc.gather hgather))
    (proper_scope hc.gatherReference hreference)
  split
  · exact hscopes.put _ (.bool true)
  · exact hscopes

theorem Proper.unwound {c c' : Config} (hc : c.Proper) (h : c.unwound = .ok c') : c'.Proper := by
  obtain ⟨target, htarget, h⟩ := Outcome.bind_eq_ok.1 h
  obtain ⟨reference, hreference, h⟩ := Outcome.bind_eq_ok.1 h
  obtain rfl := Except.ok.inj h
  have hresult {p : Option Provided} {r : Option Report} (hp : ∀ q ∈ p, q.Proper)
      (hr : p.mapM Provided.unwind = .ok r) : ∀ q ∈ r.map Provided.report, q.Proper := by
    intro q hq
    obtain ⟨s, rfl, rfl⟩ := Option.map_eq_some_iff.1 hq
    cases p with
    | none => exact absurd (Except.ok.inj hr) (by simp)
    | some p =>
        obtain ⟨u, hu, hsome⟩ := Outcome.map_eq_ok.1 hr
        obtain rfl := Option.some.inj hsome
        exact (hp p rfl).unwind hu
  exact {
    gather := hc.gather
    gatherReference := hc.gatherReference
    targetResult := hresult hc.targetResult htarget
    referenceResult := hresult hc.referenceResult hreference
    options := hc.options }

end Config

namespace Portable

theorem proper_withSlashes {v : Json} (h : v.Proper) (key : Option String) :
    (withSlashes key v).Proper := by
  induction v using Json.induct generalizing key with
  | null => exact h
  | bool b => exact h
  | int n => exact h
  | real d => exact h
  | str s =>
      rw [withSlashes]
      split
      · exact .str _
      · exact .str _
  | arr items ih =>
      rw [withSlashes, itemsWithSlashes_eq]
      refine .arr fun u hu => ?_
      obtain ⟨v, hv, rfl⟩ := List.mem_map.1 hu
      exact ih v hv (h.items v hv) none
  | obj fields ih =>
      rw [withSlashes]
      refine .obj (by rw [names_fieldsWithSlashes]; exact Fields.Proper.nodup h) fun field hfield =>
        ?_
      rw [fieldsWithSlashes_eq] at hfield
      obtain ⟨f, hf, rfl⟩ := List.mem_map.1 hfield
      exact ih f hf (Fields.Proper.parts h f hf) _

theorem proper_stripEntry {v : Json} (h : v.Proper) : (stripEntry v).Proper := by
  unfold stripEntry
  split
  · split
    · rename_i project hget
      exact Fields.Proper.put h _ (Fields.Proper.erase (Fields.Proper.get h hget) _)
    · exact h
  · exact h

theorem proper_findings {output : Json} (separator : String) (h : output.Proper) :
    (findings separator output).Proper := by
  have hstrip : (stripPaths output).Proper := by
    unfold stripPaths
    split
    · refine .arr fun u hu => ?_
      obtain ⟨v, hv, rfl⟩ := List.mem_map.1 hu
      exact proper_stripEntry (h.items v hv)
    · exact h
  unfold findings
  split
  · exact hstrip
  · exact proper_withSlashes hstrip none

theorem proper_dropResult {fields : Fields} (h : fields.Proper) : (dropResult fields).Proper := by
  unfold dropResult
  split
  · exact h.erase _
  · exact h.erase _

theorem proper_configuration {c : Config} {fields : Fields} (hc : c.Proper)
    (h : configuration c = .ok fields) :
    fields.Proper := by
  obtain ⟨all, hall, h⟩ := Outcome.bind_eq_ok.1 h
  obtain rfl := Except.ok.inj h
  exact proper_dropResult ((Config.proper_toFields hc hall).filter _)

theorem proper_report {output : Json} {c : Config} {label : Label}
    {target reference : Option ProjectMeta} {separator : String} {r : Report}
    (houtput : output.Proper) (hc : c.Proper) (ht : ∀ p ∈ target, p.Proper)
    (hr : ∀ p ∈ reference, p.Proper)
    (h : report output c label target reference separator = .ok r) : r.Proper := by
  obtain ⟨fields, hfields, rfl⟩ := report_eq_ok h
  have hproper := proper_configuration hc hfields
  have hmeta {p : Option ProjectMeta} (hp : ∀ q ∈ p, q.Proper) :
      ∀ q ∈ p.map (·.withoutPath), q.Proper := by
    intro q hq
    obtain ⟨s, hs, rfl⟩ := Option.map_eq_some_iff.1 hq
    exact (hp s hs).withoutPath
  refine ⟨proper_findings separator houtput, .str _, .str _, .str _, ?_, hmeta ht, hmeta hr⟩
  simp only []
  split
  · exact hproper
  · exact proper_withSlashes (v := .obj fields) hproper none

end Portable

namespace Survey

variable {Tree : Type} {w : Surroundings Tree} {a : Analyzer Tree} {c : Config} {p : Prepared}

def DescribesProper (w : Surroundings Tree) : Prop :=
  ∀ path m, w.describe path = .ok m → m.Proper

structure Prepared.Proper (p : Prepared) : Prop where
  config : p.config.Proper
  target : ∀ m ∈ p.target, m.Proper
  reference : ∀ m ∈ p.reference, m.Proper

theorem proper_providedTarget {provided : Provided} {m : Option ProjectMeta} (hp : provided.Proper)
    (h : (do return (← provided.unwind).about.target : Except Fault (Option ProjectMeta)) = .ok m) :
    ∀ q ∈ m, q.Proper := by
  obtain ⟨r, hr, h⟩ := Outcome.bind_eq_ok.1 h
  obtain rfl := Except.ok.inj h
  exact (hp.unwind hr).about.target

theorem proper_described {w : Surroundings Tree} (hw : DescribesProper w) {path : String}
    {m : Option ProjectMeta} (h : some <$> w.describe path = .ok m) : ∀ q ∈ m, q.Proper := by
  obtain ⟨q, hq, rfl⟩ := Outcome.map_eq_ok.1 h
  intro r hr
  obtain rfl := Option.some.inj hr
  exact hw path _ hq

theorem Identified.proper (hw : DescribesProper w) (hc : c.Proper) (h : Identified w a c p) :
    p.Proper := by
  have hconfig := hc.unwound h.unwound
  refine ⟨hconfig, ?_, ?_⟩
  · have htarget := h.target
    unfold targetMeta at htarget
    split at htarget
    · rename_i provided hprovided
      exact proper_providedTarget (hconfig.targetResult provided hprovided) htarget
    · exact proper_described hw htarget
  · have hreference := h.reference
    unfold referenceMeta at hreference
    split at hreference
    · rename_i provided hprovided
      exact proper_providedTarget (hconfig.referenceResult provided hprovided) hreference
    · cases hpath : Config.given p.config.referencePath with
      | none =>
          rw [hpath] at hreference
          intro q hq
          rw [← Except.ok.inj hreference] at hq
          exact absurd hq (by simp)
      | some path =>
          rw [hpath] at hreference
          exact proper_described hw hreference

theorem proper_outputOf {found : List (String × Findings)}
    (h : ∀ entry ∈ found, (∀ v ∈ entry.2.result, v.Proper) ∧ entry.2.about.Proper) :
    (outputOf found).Proper := by
  refine .arr fun v hv => ?_
  obtain ⟨entry, hentry, rfl⟩ := List.mem_map.1 hv
  obtain ⟨hresult, habout⟩ := h entry (List.mem_filter.1 hentry).1
  exact Fields.proper_cons (by simp [Fields.names]) (.str _)
    (Fields.proper_cons (by simp [Fields.names]) habout
      (Fields.proper_cons List.not_mem_nil (.arr hresult) Fields.proper_nil))

theorem proper_traverse (ha : a.FindsProper) (hp : p.Proper) {output : Json}
    (h : (traverse w a p).outcome = .ok output) : output.Proper := by
  rw [outcome_traverse] at h
  obtain ⟨provided, hprovided, h⟩ := Outcome.bind_eq_ok.1 h
  split at h
  · rename_i r rule hrule
    refine ha.fromReport rule hrule r ?_ _ _ h
    obtain ⟨given, _, _, hgiven, -, hunwind, -⟩ := reusable_eq_some hprovided
    exact (hp.config.targetResult given hgiven).unwind hunwind
  · split at h
    · exact absurd h (by simp)
    · rw [outcome_fromFiles] at h
      obtain ⟨reader, -, h⟩ := Outcome.bind_eq_ok.1 h
      obtain ⟨parsed, -, h⟩ := Outcome.bind_eq_ok.1 h
      obtain ⟨found, hfound, h⟩ := Outcome.bind_eq_ok.1 h
      obtain rfl := Except.ok.inj h
      refine proper_outputOf fun entry hentry => ?_
      obtain ⟨f, -, hf⟩ := Outcome.mem_of_mapM_eq_ok hfound entry hentry
      obtain ⟨-, hfindings⟩ := findingsIn_eq_ok_iff.1 hf
      exact ha.inFile _ _ _ hfindings

theorem proper_fresh (ha : a.FindsProper) (hp : p.Proper) {r : Report} (h : fresh w a p = .ok r) :
    r.Proper := by
  obtain ⟨hmade, -⟩ := fresh_eq_ok_iff.1 h
  obtain ⟨p', hcollect, h⟩ := Outcome.bind_eq_ok.1 hmade
  rw [outcome_produce] at h
  obtain ⟨output, htraverse, hreport⟩ := Outcome.bind_eq_ok.1 h
  obtain ⟨files, rfl⟩ := collect_files hcollect
  have hp' : Prepared.Proper { p with files } := ⟨hp.config, hp.target, hp.reference⟩
  exact Portable.proper_report (proper_traverse ha hp' htraverse) hp.config hp.target
    hp.reference hreport

end Survey

theorem ProjectFiles.proper_metaAt {t : FileTree} {withCommit : Bool} {root : Place}
    {m : ProjectMeta} (h : metaAt t withCommit root = .ok m) : m.Proper := by
  obtain ⟨manifest, -, h⟩ := Outcome.bind_eq_ok.1 h
  obtain rfl := Except.ok.inj h
  constructor
  · intro v hv
    obtain rfl := Option.some.inj hv
    exact .str _
  · intro v hv
    obtain ⟨s, -, rfl⟩ := Option.map_eq_some_iff.1 hv
    exact .str s

theorem Disk.describesProper (d : Disk) (separator : String) :
    Survey.DescribesProper (d.surroundings separator) :=
  fun _ _ h => ProjectFiles.proper_metaAt h

end CodeSurvey
