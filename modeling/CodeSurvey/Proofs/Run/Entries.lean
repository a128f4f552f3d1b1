import CodeSurvey.Proofs.Run.Endings

namespace CodeSurvey

namespace Json

def IsEntry (separator : String) (v : Json) : Prop :=
  ∃ path found, v = Survey.entryJson path found ∧ "./".toList <+: path.toList
    ∧ (separator ≠ "/" → '\\' ∉ path.toList) ∧ found.result ≠ []

def IsFindings (separator : String) (v : Json) : Prop :=
  ∃ entries, v = .arr entries ∧ ∀ entry ∈ entries, entry.IsEntry separator

theorem IsFindings.weaken {separator : String} {v : Json} (h : v.IsFindings separator) :
    v.IsFindings "/" := by
  obtain ⟨entries, rfl, hentries⟩ := h
  refine ⟨entries, rfl, fun entry hentry => ?_⟩
  obtain ⟨path, found, hshape, hbelow, -, hfound⟩ := hentries entry hentry
  exact ⟨path, found, hshape, hbelow, fun hne => absurd rfl hne, hfound⟩

end Json

namespace Path

theorem below_fromRoot (current file root : String) :
    "./".toList <+: (fromRoot current file root).toList := by
  rw [fromRoot, String.toList_append]
  exact List.prefix_append _ _

theorem below_nameFromRoot {current file root path : String}
    (h : nameFromRoot current file root = .ok path) :
    "./".toList <+: path.toList := by
  obtain ⟨-, rfl⟩ := nameFromRoot_eq_ok_iff.1 h
  exact below_fromRoot current file root

theorem toList_withSlashes (path : String) :
    (withSlashes path).toList = path.toList.map fun c => if c = '\\' then '/' else c :=
  String.toList_ofList

theorem below_withSlashes {path : String} (h : "./".toList <+: path.toList) :
    "./".toList <+: (withSlashes path).toList := by
  rw [toList_withSlashes]
  exact h.map fun c => if c = '\\' then '/' else c

theorem not_mem_withSlashes (path : String) : '\\' ∉ (withSlashes path).toList := by
  rw [toList_withSlashes, List.mem_map]
  rintro ⟨c, -, hc⟩
  split at hc
  · exact absurd hc (by decide)
  · exact absurd hc ‹_›

end Path

namespace Portable

theorem stripPaths_of_isFindings {output : Json} (h : output.IsFindings "/") :
    stripPaths output = output := by
  obtain ⟨entries, rfl, hentries⟩ := h
  have hstrip : ∀ entry ∈ entries, stripEntry entry = entry := by
    intro entry hentry
    obtain ⟨path, found, rfl, -⟩ := hentries entry hentry
    rfl
  rw [stripPaths, List.map_congr_left hstrip, List.map_id']

theorem withSlashes_entryJson (path : String) (found : Findings) :
    withSlashes none (Survey.entryJson path found) = Survey.entryJson (Path.withSlashes path)
      { result := found.result.map (withSlashes none), about := withSlashes (some
        "meta") found.about } := by
  simp only [Survey.entryJson, withSlashes, fieldsWithSlashes, itemsWithSlashes_eq, if_true]

theorem isFindings_findings (separator : String) {output : Json} (h : output.IsFindings "/") :
    (findings separator output).IsFindings separator := by
  rw [findings, stripPaths_of_isFindings h]
  split
  · rename_i hown
    exact hown ▸ h
  · obtain ⟨entries, rfl, hentries⟩ := h
    refine ⟨_, by rw [withSlashes, itemsWithSlashes_eq], fun entry hentry => ?_⟩
    obtain ⟨other, hother, rfl⟩ := List.mem_map.1 hentry
    obtain ⟨path, found, rfl, hbelow, -, hfound⟩ := hentries other hother
    exact ⟨_, _, withSlashes_entryJson path found, Path.below_withSlashes hbelow,
      fun _ => Path.not_mem_withSlashes path, by simpa using hfound⟩

end Portable

namespace Matches

theorem isEntry_of_reportedFile? {reference : ProjectMeta} {entry v : Json}
    (hentry : entry.IsEntry "/") (h : reportedFile? reference entry = .ok (some v)) :
    v.IsEntry "/" := by
  obtain ⟨path, about, rfl, hbelow, hslashes, -⟩ := hentry
  obtain ⟨result, -, h⟩ := Outcome.bind_eq_ok.1 h
  obtain ⟨items, -, h⟩ := Outcome.bind_eq_ok.1 h
  obtain ⟨found, -, h⟩ := Outcome.bind_eq_ok.1 h
  split at h
  · exact absurd (Except.ok.inj h) nofun
  · rename_i hfound
    obtain rfl := Option.some.inj (Except.ok.inj h)
    exact ⟨path, { result := found }, rfl, hbelow, hslashes, by simpa using hfound⟩

theorem isFindings_fromReport {r : Report} {reference : Option ProjectMeta} {output : Json}
    (hr : r.output.IsFindings "/") (h : fromReport r reference = .ok output) :
    output.IsFindings "/" := by
  cases reference with
  | none =>
      obtain rfl := Except.ok.inj h
      exact ⟨[], rfl, fun _ hmem => absurd hmem List.not_mem_nil⟩
  | some reference =>
      obtain ⟨reported, hreported, hentries⟩ := hr
      obtain ⟨elements, helements, h⟩ := Outcome.bind_eq_ok.1 h
      rw [hreported] at helements
      obtain rfl := Except.ok.inj helements
      obtain ⟨files, hfiles, h⟩ := Outcome.bind_eq_ok.1 h
      obtain rfl := Except.ok.inj h
      refine ⟨_, rfl, fun entry hentry => ?_⟩
      obtain ⟨file, hfile, rfl⟩ := List.mem_filterMap.1 hentry
      obtain ⟨source, hsource, hmade⟩ := Outcome.mem_of_mapM_eq_ok hfiles _ hfile
      exact isEntry_of_reportedFile? (hentries source hsource) hmade

end Matches

namespace Survey

variable {Tree : Type} {w : Surroundings Tree} {a : Analyzer Tree} {p : Prepared}

theorem isFindings_outputOf {found : List (String × Findings)}
    (h : ∀ entry ∈ found, "./".toList <+: entry.1.toList) :
    (outputOf found).IsFindings "/" := by
  refine ⟨_, rfl, fun v hv => ?_⟩
  obtain ⟨entry, hentry, rfl⟩ := List.mem_map.1 hv
  obtain ⟨hmem, hfound⟩ := List.mem_filter.1 hentry
  exact ⟨entry.1, entry.2, rfl, h entry hmem, fun hne => absurd rfl hne, by simpa using hfound⟩

def KeepsEntries (a : Analyzer Tree) : Prop :=
  ∀ rule, a.fromReport = some rule → ∀ r reference output, r.output.IsFindings "/" →
    rule r reference = .ok output → output.IsFindings "/"

theorem isFindings_fromFiles {input : ProjectInput} {output : Json}
    (h : (fromFiles w a p input).outcome = .ok output) :
    output.IsFindings "/" := by
  rw [outcome_fromFiles] at h
  obtain ⟨reader, -, h⟩ := Outcome.bind_eq_ok.1 h
  obtain ⟨parsed, -, h⟩ := Outcome.bind_eq_ok.1 h
  obtain ⟨found, hfound, h⟩ := Outcome.bind_eq_ok.1 h
  obtain rfl := Except.ok.inj h
  refine isFindings_outputOf fun entry hentry => ?_
  obtain ⟨file, -, hfile⟩ := Outcome.mem_of_mapM_eq_ok hfound entry hentry
  obtain ⟨hname, -⟩ := findingsIn_eq_ok_iff.1 hfile
  exact Path.below_nameFromRoot hname

theorem isFindings_traverse (ha : KeepsEntries a)
    (hprovided : ∀ r, reusable a p.config = .ok (some r) → r.output.IsFindings "/") {output : Json}
    (h : (traverse w a p).outcome = .ok output) : output.IsFindings "/" := by
  rw [outcome_traverse] at h
  obtain ⟨provided, hreusable, h⟩ := Outcome.bind_eq_ok.1 h
  split at h
  · rename_i r rule hrule
    exact ha rule hrule r _ _ (hprovided r hreusable) h
  · split at h
    · exact absurd h nofun
    · exact isFindings_fromFiles h

end Survey

theorem Catalogue.keepsEntries {a : Analyzer SourceTree} (ha : a ∈ Catalogue.all) :
    Survey.KeepsEntries a := by
  intro rule hrule r reference output hr h
  obtain rfl := Catalogue.eq_fromReport ha hrule
  exact Matches.isFindings_fromReport hr h

end CodeSurvey
