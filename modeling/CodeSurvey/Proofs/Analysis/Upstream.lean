import CodeSurvey.Proofs.Analysis.Packages
import CodeSurvey.Proofs.Run.Portable
import CodeSurvey.Run.Survey

namespace CodeSurvey

namespace Matches

theorem isRelative_eq_false_iff (s : String) : Imports.isRelative s = false ↔
    (∀ rest, s.toList ≠ '.' :: '/' :: rest) ∧ (∀ rest, s.toList ≠ '.' :: '.' :: '/' :: rest)
      ∧ s.toList ≠ ['.'] ∧ s.toList ≠ ['.', '.'] := by
  have hdot : (s = ".") ↔ s.toList = ['.'] := by
    rw [← String.toList_inj]; rfl
  have hdots : (s = "..") ↔ s.toList = ['.', '.'] := by
    rw [← String.toList_inj]; rfl
  simp only [Imports.isRelative, Bool.or_eq_false_iff, beq_eq_false_iff_ne, ne_eq, hdot,
    hdots, and_assoc]
  generalize s.toList = cs
  refine and_congr ?_ (and_congr ?_ Iff.rfl)
  · rw [← Bool.not_eq_true, List.isPrefixOf_iff_prefix, ← not_exists]
    refine not_congr ⟨fun ⟨rest, h⟩ => ⟨rest, h.symm⟩, fun ⟨rest, h⟩ => ⟨rest, h.symm⟩⟩
  · rw [← Bool.not_eq_true, List.isPrefixOf_iff_prefix, ← not_exists]
    refine not_congr ⟨fun ⟨rest, h⟩ => ⟨rest, h.symm⟩, fun ⟨rest, h⟩ => ⟨rest, h.symm⟩⟩

theorem not_isRelative_of_comesFrom {name source : String} (h : comesFrom name source = true)
    (hname : Imports.isRelative name = false) : Imports.isRelative source = false := by
  simp only [comesFrom, Bool.or_eq_true, beq_iff_eq, List.isPrefixOf_iff_prefix] at h
  rcases h with rfl | ⟨rest, hrest⟩
  · exact hname
  rw [isRelative_eq_false_iff] at hname ⊢
  rw [← hrest]
  generalize name.toList = cs at hname
  obtain ⟨hone, htwo, hdot, hdots⟩ := hname
  rcases cs with _ | ⟨a, _ | ⟨b, _ | ⟨c, cs⟩⟩⟩
  · simp
  · simp at hdot ⊢
    exact hdot
  · simp at hone hdots ⊢
    exact ⟨fun ha hb => hone [] ha hb rfl, hdots⟩
  · simp at hone htwo ⊢
    exact ⟨hone, fun _ ha hb hc _ => htwo _ ha hb hc rfl⟩

def matched (reference : ProjectMeta) (entries : List Imports.Entry) : Findings :=
  { result := (entries.filter fun e => comesFrom reference.name e.source).map fun e =>
      entry reference (.ofTexts e.specifiers) (.str e.source) }

def matchedIfAny : Option ProjectMeta → List Imports.Entry → Findings
  | none, _ => { result := [] }
  | some reference, entries => matched reference entries

def imported (external : Bool) (entries : List Imports.Entry) : Findings :=
  { result := (if external then entries.filter (!Imports.isRelative ·.source)
    else entries).map Imports.Entry.toJson }

theorem matched_external {reference : ProjectMeta}
    (hname : Imports.isRelative reference.name = false) (entries : List Imports.Entry) :
    matched reference (entries.filter (!Imports.isRelative ·.source))
      = matched reference entries := by
  have hfilter : (entries.filter (!Imports.isRelative ·.source)).filter (fun e =>
      comesFrom reference.name e.source)
      = entries.filter fun e => comesFrom reference.name e.source := by
    rw [List.filter_filter]
    refine List.filter_congr fun e _ => ?_
    cases h : comesFrom reference.name e.source with
    | false => rfl
    | true => rw [not_isRelative_of_comesFrom h hname]; rfl
  simp only [matched, hfilter]

theorem ReportedFile.matched_of (reference : ProjectMeta) (path : String)
    (entries : List Imports.Entry) :
    (ReportedFile.of path entries).matched reference = Survey.entryJson path
    (Matches.matched reference entries) := by
  rw [matched, of, ofPackage_map, List.map_map, Matches.matched, filter_comesFrom]
  rfl

theorem ReportedFile.isMatched_of (reference : ProjectMeta) (path : String)
    (entries : List Imports.Entry) :
    (ReportedFile.of path entries).isMatched reference
      = !(Matches.matched reference entries).result.isEmpty := by
  rw [isMatched_eq, of, ofPackage_map, List.isEmpty_map, Matches.matched, filter_comesFrom,
    List.isEmpty_map]
  rfl

def importsOutput (external : Bool) (files : List (String × List Imports.Entry)) : Json :=
  Survey.outputOf (files.map fun file => (file.1, imported external file.2))

def matchesOutput (reference : Option ProjectMeta) (files : List (String × List Imports.Entry)) :
    Json :=
  match reference with
  | none => .arr []
  | some reference => Survey.outputOf (files.map fun file => (file.1, matched reference file.2))

theorem outputOf_map {files : List (String × List Imports.Entry)}
    (find : List Imports.Entry → Findings) :
    Survey.outputOf (files.map fun file => (file.1, find file.2))
      = .arr ((files.filter fun file => !(find file.2).result.isEmpty).map fun file =>
        Survey.entryJson file.1 (find file.2)) := by
  rw [Survey.outputOf, List.filter_map, List.map_map]
  rfl

theorem isEmpty_imported {entries : List Imports.Entry} :
    (imported false entries).result.isEmpty = entries.isEmpty := by
  simp [imported]

theorem isEmpty_matched {reference : ProjectMeta} {entries : List Imports.Entry}
    (h : entries.isEmpty = true) :
    (matched reference entries).result.isEmpty = true := by
  rw [List.isEmpty_iff.1 h]
  rfl

theorem fromReport_all {r : Report} {reference : ProjectMeta}
    {files : List (String × List Imports.Entry)} (hr : r.output = importsOutput false files) :
    fromReport r (some reference) = .ok (matchesOutput (some reference) files) := by
  have hreported : r.output = .arr (((files.filter fun file => !file.2.isEmpty).map fun file =>
      ReportedFile.of file.1 file.2).map ReportedFile.toJson) := by
    rw [hr, importsOutput, outputOf_map, List.map_map]
    simp only [isEmpty_imported]
    rfl
  have hfilter : (files.filter fun file => !file.2.isEmpty).filter
      (fun file => !(matched reference file.2).result.isEmpty)
      = files.filter fun file => !(matched reference file.2).result.isEmpty := by
    rw [List.filter_filter]
    refine List.filter_congr fun file _ => ?_
    cases h : file.2.isEmpty with
    | true => rw [isEmpty_matched h]; rfl
    | false => simp
  rw [fromReport_eq reference hreported, List.filter_map, List.map_map]
  simp only [Function.comp_def, ReportedFile.isMatched_of, ReportedFile.matched_of, hfilter,
    matchesOutput, outputOf_map]

theorem fromReport_importsOutput {r : Report} {reference : Option ProjectMeta}
    (hname : ∀ m ∈ reference, Imports.isRelative m.name = false) {external : Bool}
    {files : List (String × List Imports.Entry)} (hr : r.output = importsOutput external files) :
    fromReport r reference = .ok (matchesOutput reference files) := by
  cases reference with
  | none => rfl
  | some reference =>
      cases external with
      | false => exact fromReport_all hr
      | true =>
          have houtput : importsOutput true files
              = importsOutput false (files.map fun file =>
                (file.1, file.2.filter (!Imports.isRelative ·.source))) := by
            simp only [importsOutput, List.map_map]
            rfl
          rw [fromReport_all (hr.trans houtput), matchesOutput, matchesOutput, List.map_map]
          simp only [Function.comp_def, matched_external (hname reference rfl)]

def shown (separator : String) (files : List (String × List Imports.Entry)) :
    List (String × List Imports.Entry) :=
  if separator = "/" then files else files.map fun file => (Path.withSlashes file.1, file.2)

theorem shown_shown (separator : String) (files : List (String × List Imports.Entry)) :
    shown separator (shown separator files) = shown separator files := by
  unfold shown
  split
  · rfl
  · simp only [List.map_map, Function.comp_def, Path.withSlashes_withSlashes]

theorem findings_outputOf (separator : String) (files : List (String × List Imports.Entry))
    {find : List Imports.Entry → Findings} (habout : ∀ entries, (find entries).about = .null)
    (hresult : ∀ entries, ∀ v ∈ (find entries).result, Portable.withSlashes none v = v) :
    Portable.findings separator (Survey.outputOf (files.map fun file => (file.1, find file.2)))
      = Survey.outputOf ((shown separator files).map fun file => (file.1, find file.2)) := by
  have hstrip (path : String) (found : Findings) :
      Portable.stripEntry (Survey.entryJson path found) = Survey.entryJson path found := rfl
  have hslashes (path : String) (entries : List Imports.Entry) :
      Portable.withSlashes none (Survey.entryJson path (find entries))
        = Survey.entryJson (Path.withSlashes path) (find entries) := by
    have hitems : (find entries).result.map (Portable.withSlashes none)
        = (find entries).result := by
      rw [List.map_congr_left (hresult entries), List.map_id']
    simp only [Survey.entryJson, Portable.withSlashes, Portable.fieldsWithSlashes, habout,
      Portable.itemsWithSlashes_eq, hitems]
    rfl
  simp only [outputOf_map, Portable.findings, Portable.stripPaths, List.map_map,
    Function.comp_def, hstrip]
  unfold shown
  split
  · rfl
  · rw [Portable.withSlashes, Portable.itemsWithSlashes_eq, List.filter_map, List.map_map,
      List.map_map]
    simp only [Function.comp_def, hslashes]

theorem withSlashes_ofTexts (key : Option String) (texts : List String) :
    Portable.withSlashes key (.ofTexts texts) = .ofTexts texts := by
  simp only [Json.ofTexts, Portable.withSlashes, Portable.itemsWithSlashes_eq, List.map_map]
  refine congrArg Json.arr (List.map_congr_left fun s _ => ?_)
  simp [Portable.withSlashes]

theorem findings_importsOutput (separator : String) (external : Bool)
    (files : List (String × List Imports.Entry)) :
    Portable.findings separator (importsOutput external files)
      = importsOutput external (shown separator files) := by
  refine findings_outputOf separator files (fun _ => rfl) fun entries v hv => ?_
  obtain ⟨e, -, rfl⟩ := List.mem_map.1 hv
  simp [Imports.Entry.toJson, Portable.withSlashes, Portable.fieldsWithSlashes, withSlashes_ofTexts]

theorem findings_matchesOutput (separator : String) (reference : Option ProjectMeta)
    (files : List (String × List Imports.Entry)) :
    Portable.findings separator (matchesOutput reference files)
      = matchesOutput reference (shown separator files) := by
  cases reference with
  | none =>
      unfold Portable.findings
      split <;> rfl
  | some reference =>
      refine findings_outputOf separator files (fun _ => rfl) fun entries v hv => ?_
      obtain ⟨e, -, rfl⟩ := List.mem_map.1 hv
      simp [entry, Portable.withSlashes, Portable.fieldsWithSlashes, withSlashes_ofTexts]

end Matches

end CodeSurvey
