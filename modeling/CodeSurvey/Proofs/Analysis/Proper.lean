import CodeSurvey.Analysis.Catalogue
import CodeSurvey.Proofs.Json.Access
import CodeSurvey.Proofs.Report.Proper

namespace CodeSurvey

namespace Analyzer

structure FindsProper {Tree : Type} (a : Analyzer Tree) : Prop where
  inFile : ∀ tree context findings, a.inFile tree context = .ok findings →
    (∀ v ∈ findings.result, v.Proper) ∧ findings.about.Proper
  fromReport : ∀ rule, a.fromReport = some rule → ∀ r : Report, r.Proper → ∀ reference output,
    rule r reference = .ok output → output.Proper

end Analyzer

namespace Imports

theorem proper_toJson (e : Entry) : e.toJson.Proper :=
  Fields.proper_cons (by simp [Fields.names]) (Json.proper_ofTexts _)
    (Fields.proper_cons (by simp [Fields.names]) (.str _)
      (Fields.proper_cons List.not_mem_nil (.str _) Fields.proper_nil))

end Imports

namespace Exports

theorem proper_toJson (e : Entry) : e.toJson.Proper := by
  have hsource : (Json.ofOption (e.source.map .str)).Proper := by
    cases e.source with
    | none => exact .null
    | some s => exact .str s
  exact Fields.proper_cons (by simp [Fields.names]) (Json.proper_ofTexts _)
    (Fields.proper_cons List.not_mem_nil hsource Fields.proper_nil)

end Exports

namespace Definitions

theorem proper_toJson (e : Entry) : e.toJson.Proper :=
  Fields.proper_cons (by simp [Fields.names]) (.str _)
    (Fields.proper_cons (by simp [Fields.names]) (.str _)
      (Fields.proper_cons (by simp [Fields.names]) (.int _)
        (Fields.proper_cons List.not_mem_nil (.str _) Fields.proper_nil)))

end Definitions

namespace Matches

theorem proper_entry (reference : ProjectMeta) {specifiers source : Json} (h : specifiers.Proper)
    (hs : source.Proper) : (entry reference specifiers source).Proper :=
  Fields.proper_cons (by simp [Fields.names]) h
    (Fields.proper_cons (by simp [Fields.names]) hs
      (Fields.proper_cons List.not_mem_nil (.str _) Fields.proper_nil))

theorem proper_reportedItem {reference : ProjectMeta} {item v : Json} (hitem : item.Proper)
    (h : reportedItem reference item = .ok (some v)) : v.Proper := by
  obtain ⟨source, hsource, h⟩ := Outcome.bind_eq_ok.1 h
  obtain ⟨text, -, h⟩ := Outcome.bind_eq_ok.1 h
  split at h
  · obtain ⟨specifiers, hspecifiers, h⟩ := Outcome.bind_eq_ok.1 h
    obtain rfl := Option.some.inj (Except.ok.inj h)
    exact proper_entry reference (hitem.require hspecifiers) (hitem.require hsource)
  · exact absurd (Except.ok.inj h) (by simp)

theorem proper_reportedFile? {reference : ProjectMeta} {file v : Json} (hfile : file.Proper)
    (h : reportedFile? reference file = .ok (some v)) : v.Proper := by
  obtain ⟨result, hresult, h⟩ := Outcome.bind_eq_ok.1 h
  obtain ⟨items, hitems, h⟩ := Outcome.bind_eq_ok.1 h
  obtain ⟨found, hfound, h⟩ := Outcome.bind_eq_ok.1 h
  have hproper : ∀ u ∈ found, u.Proper := by
    obtain ⟨entries, hentries, hfound⟩ := Outcome.bind_eq_ok.1 hfound
    obtain rfl := Except.ok.inj hfound
    intro u hu
    obtain ⟨e, he, hid⟩ := List.mem_filterMap.1 hu
    obtain rfl : e = some u := hid
    obtain ⟨item, hitem, hreported⟩ := Outcome.mem_of_mapM_eq_ok hentries _ he
    exact proper_reportedItem ((hfile.require hresult).elements hitems item hitem) hreported
  split at h
  · exact absurd (Except.ok.inj h) (by simp)
  · obtain ⟨name, hname, h⟩ := Outcome.bind_eq_ok.1 h
    obtain rfl := Option.some.inj (Except.ok.inj h)
    exact Fields.proper_cons (by simp [Fields.names]) (hfile.require hname)
      (Fields.proper_cons (by simp [Fields.names]) .null
        (Fields.proper_cons List.not_mem_nil (.arr hproper) Fields.proper_nil))

theorem proper_fromReport {imports : Report} {reference : Option ProjectMeta} {output : Json}
    (hr : imports.Proper) (h : fromReport imports reference = .ok output) : output.Proper := by
  unfold fromReport at h
  cases reference with
  | none =>
      obtain rfl := Except.ok.inj h
      exact .arr fun _ hv => absurd hv List.not_mem_nil
  | some reference =>
      obtain ⟨elements, helements, h⟩ := Outcome.bind_eq_ok.1 h
      obtain ⟨files, hfiles, h⟩ := Outcome.bind_eq_ok.1 h
      obtain rfl := Except.ok.inj h
      refine .arr fun v hv => ?_
      obtain ⟨e, he, hid⟩ := List.mem_filterMap.1 hv
      obtain rfl : e = some v := hid
      obtain ⟨file, hfile, hreported⟩ := Outcome.mem_of_mapM_eq_ok hfiles _ he
      exact proper_reportedFile? (hr.output.elements helements file hfile) hreported

end Matches

namespace Catalogue

theorem findsProper {a : Analyzer SourceTree} (ha : a ∈ all) : a.FindsProper := by
  simp only [all, List.mem_cons, List.not_mem_nil, or_false] at ha
  rcases ha with rfl | rfl | rfl | rfl
  · refine ⟨fun tree context findings h => ?_, fun rule hrule =>
      absurd hrule (by simp [findImports])⟩
    obtain rfl := Except.ok.inj h
    refine ⟨fun v hv => ?_, .null⟩
    obtain ⟨e, -, rfl⟩ := List.mem_map.1 hv
    exact Imports.proper_toJson e
  · refine ⟨fun tree context findings h => ?_, fun rule hrule =>
      absurd hrule (by simp [findExports])⟩
    obtain rfl := Except.ok.inj h
    constructor
    · intro v hv
      obtain ⟨e, -, rfl⟩ := List.mem_map.1 hv
      exact Exports.proper_toJson e
    · simp only []
      split
      · exact .null
      · exact Fields.proper_cons List.not_mem_nil (.int _) Fields.proper_nil
  · refine ⟨fun tree context findings h => ?_, fun rule hrule r hr reference output h => ?_⟩
    · simp only [matchImports, Matches.inFile] at h
      split at h
      · obtain rfl := Except.ok.inj h
        exact ⟨fun _ hv => absurd hv List.not_mem_nil, .null⟩
      · obtain rfl := Except.ok.inj h
        refine ⟨fun v hv => ?_, .null⟩
        obtain ⟨e, -, rfl⟩ := List.mem_map.1 hv
        exact Matches.proper_entry _ (Json.proper_ofTexts _) (.str _)
    · obtain rfl := Option.some.inj hrule
      exact Matches.proper_fromReport hr h
  · refine ⟨fun tree context findings h => ?_, fun rule hrule =>
      absurd hrule (by simp [findDefinitions])⟩
    obtain rfl := Except.ok.inj h
    refine ⟨fun v hv => ?_, .null⟩
    obtain ⟨e, -, rfl⟩ := List.mem_map.1 hv
    exact Definitions.proper_toJson e

end Catalogue

end CodeSurvey
