import CodeSurvey.Analysis.Catalogue
import CodeSurvey.Proofs.Analysis.Proper
import CodeSurvey.Proofs.Json.Alike

namespace CodeSurvey

def ProjectMeta.SameName (p p' : Option ProjectMeta) : Prop :=
  p.map (fun m => (m.name, m.version)) = p'.map fun m => (m.name, m.version)

namespace Analyzer

structure Respects {Tree : Type} (a : Analyzer Tree) : Prop where
  inFile : ∀ tree (x y : FileContext), x.path = y.path →
    ProjectMeta.SameName x.reference y.reference →
    x.options.Alike y.options → a.inFile tree x = a.inFile tree y
  fromReport : ∀ rule, a.fromReport = some rule → ∀ (r r' : Report) (items : List Json), r.output
    = .arr items →
    r.output.Proper → r'.output.Proper → r.output.Alike r'.output →
    ∀ reference reference', ProjectMeta.SameName reference reference' →
    ∀ output output', rule r reference = .ok output → rule r' reference' = .ok output' →
      output.Alike output'
  sameReport : ∀ rule, a.fromReport = some rule →
    ∀ (r : Report) (reference reference' : Option ProjectMeta),
    ProjectMeta.SameName reference reference' → rule r reference = rule r reference'

end Analyzer

namespace Json

variable {v w x y : Json}

theorem Alike.require (h : v.Alike w) (hv : v.Proper) (hw : w.Proper) {name : String}
    (hx : v.require name = .ok x) (hy : w.require name = .ok y) : x.Alike y := by
  cases v with
  | obj f =>
      obtain ⟨g, rfl⟩ := Alike.obj h
      have halike := (Fields.alike_iff (Fields.Proper.nodup hv) (Fields.Proper.nodup hw)).1 h name
      simp only [Json.require] at hx hy
      split at hx
      · rename_i hf
        split at hy
        · rename_i hg
          rw [hf, hg, Except.ok.inj hx, Except.ok.inj hy] at halike
          exact Option.some.inj halike
        · exact absurd hy (by simp)
      · exact absurd hx (by simp)
  | null => exact absurd hx (by simp [Json.require])
  | bool b => exact absurd hx (by simp [Json.require])
  | int n => exact absurd hx (by simp [Json.require])
  | real d => exact absurd hx (by simp [Json.require])
  | str s => exact absurd hx (by simp [Json.require])
  | arr items => exact absurd hx (by simp [Json.require])

end Json

namespace Matches

variable {m m' : ProjectMeta} {v w : Json}

theorem alike_entry (hm : exporter m = exporter m') {specifiers specifiers' source source' : Json}
    (h : specifiers.Alike specifiers') (hs : source.Alike source') :
    (entry m specifiers source).Alike (entry m' specifiers' source') := by
  have hspecifiers : specifiers.sorted = specifiers'.sorted := h
  have hsource : source.sorted = source'.sorted := hs
  simp only [entry, Json.Alike, Json.sorted, Json.sortedFields, hspecifiers, hsource, hm]

theorem alike_reportedItem (hname : m.name = m'.name) (hversion : m.version = m'.version)
    (h : v.Alike w) (hv : v.Proper) (hw : w.Proper) {found found' : Option Json}
    (hfound : reportedItem m v = .ok found) (hfound' : reportedItem m' w = .ok found') :
    found.map Json.sorted = found'.map Json.sorted := by
  obtain ⟨source, hsource, hfound⟩ := Outcome.bind_eq_ok.1 hfound
  obtain ⟨text, htext, hfound⟩ := Outcome.bind_eq_ok.1 hfound
  obtain ⟨source', hsource', hfound'⟩ := Outcome.bind_eq_ok.1 hfound'
  obtain ⟨text', htext', hfound'⟩ := Outcome.bind_eq_ok.1 hfound'
  have halike := h.require hv hw hsource hsource'
  rw [← halike.asText, htext] at htext'
  obtain rfl := Except.ok.inj htext'
  rw [← hname] at hfound'
  split at hfound
  · rename_i hcomes
    rw [if_pos hcomes] at hfound'
    obtain ⟨specifiers, hspecifiers, hfound⟩ := Outcome.bind_eq_ok.1 hfound
    obtain ⟨specifiers', hspecifiers', hfound'⟩ := Outcome.bind_eq_ok.1 hfound'
    rw [← Except.ok.inj hfound, ← Except.ok.inj hfound']
    have hexporter : exporter m = exporter m' := by rw [exporter, exporter, hname, hversion]
    exact congrArg some (alike_entry hexporter (h.require hv hw hspecifiers hspecifiers') halike)
  · rename_i hcomes
    rw [if_neg hcomes] at hfound'
    rw [← Except.ok.inj hfound, ← Except.ok.inj hfound']

theorem filterMap_alike {items others : List (Option Json)}
    (h : List.Forall₂ (fun x y => x.map Json.sorted = y.map Json.sorted) items others) :
    (items.filterMap id).map Json.sorted = (others.filterMap id).map Json.sorted := by
  induction h with
  | nil => rfl
  | @cons x y _ _ hxy _ ih =>
      cases x with
      | none =>
          obtain rfl : y = none := Option.map_eq_none_iff.1 hxy.symm
          rw [List.filterMap_cons_none rfl, List.filterMap_cons_none rfl, ih]
      | some v =>
          obtain ⟨w, rfl, hw⟩ := Option.map_eq_some_iff.1 hxy.symm
          rw [List.filterMap_cons_some (f := id) rfl, List.filterMap_cons_some (f := id) rfl,
            List.map_cons, List.map_cons, ih, hw]

theorem forall₂_mapM {α : Type} {f g : Json → Except Fault α} {R : α → α → Prop}
    {items others : List Json} {found found' : List α} (h : List.Forall₂ Json.Alike items others)
    (hstep : ∀ v ∈ items, ∀ w ∈ others, v.Alike w → ∀ x y, f v = .ok x → g w = .ok y → R x y)
    (hfound : items.mapM f = .ok found) (hfound' : others.mapM g = .ok found') :
    List.Forall₂ R found found' := by
  rw [Outcome.mapM_eq_ok_iff] at hfound hfound'
  induction h generalizing found found' with
  | nil =>
      cases hfound
      cases hfound'
      exact .nil
  | @cons v w _ _ hvw _ ih =>
      cases hfound with
      | cons hx hfound =>
          cases hfound' with
          | cons hy hfound' =>
              refine .cons (hstep v List.mem_cons_self w List.mem_cons_self hvw _ _ hx hy)
                (ih ?_ hfound hfound')
              exact fun u hu t ht =>
                hstep u (List.mem_cons_of_mem _ hu) t (List.mem_cons_of_mem _ ht)

theorem alike_reportedEntries (hname : m.name = m'.name) (hversion : m.version = m'.version)
    {items others : List Json} (h : List.Forall₂ Json.Alike items others)
    (hv : ∀ v ∈ items, v.Proper) (hw : ∀ w ∈ others, w.Proper) {found found' : List Json}
    (hfound : reportedEntries m items = .ok found)
    (hfound' : reportedEntries m' others = .ok found') :
    found.map Json.sorted = found'.map Json.sorted := by
  obtain ⟨entries, hentries, hfound⟩ := Outcome.bind_eq_ok.1 hfound
  obtain ⟨entries', hentries', hfound'⟩ := Outcome.bind_eq_ok.1 hfound'
  rw [← Except.ok.inj hfound, ← Except.ok.inj hfound']
  refine filterMap_alike
    (forall₂_mapM h (fun v hmem w hmem' hvw x y hx hy => ?_) hentries hentries')
  exact alike_reportedItem hname hversion hvw (hv v hmem) (hw w hmem') hx hy

theorem reportedEntries_texts {texts : List String} {found : List Json}
    (h : reportedEntries m (texts.map Json.str) = .ok found) : texts = [] := by
  cases texts with
  | nil => rfl
  | cons s rest =>
      obtain ⟨entries, hentries, -⟩ := Outcome.bind_eq_ok.1 h
      rw [List.map_cons, List.mapM_cons] at hentries
      exact absurd hentries (by simp [reportedItem, Json.require])

theorem alike_elements (hname : m.name = m'.name) (hversion : m.version = m'.version)
    (h : v.Alike w) (hv : v.Proper) (hw : w.Proper) {items others found found' : List Json}
    (hitems : v.elements = .ok items) (hothers : w.elements = .ok others)
    (hfound : reportedEntries m items = .ok found)
    (hfound' : reportedEntries m' others = .ok found') :
    found.map Json.sorted = found'.map Json.sorted := by
  have hempty {found : List Json} {m : ProjectMeta} (h : reportedEntries m [] = .ok found) :
      found = [] :=
    (Except.ok.inj h).symm
  cases v with
  | arr parts =>
      obtain ⟨parts', rfl, hsorted⟩ := Json.Alike.arr h
      obtain rfl := Except.ok.inj hitems
      obtain rfl := Except.ok.inj hothers
      exact alike_reportedEntries hname hversion (Json.map_sorted_eq_iff.1 hsorted) hv.items
        hw.items hfound hfound'
  | str s =>
      obtain rfl := Json.Alike.str h
      rw [hothers] at hitems
      obtain rfl := Except.ok.inj hitems
      have hchars : others = (s.toList.map String.singleton).map Json.str := by
        rw [← Except.ok.inj hothers, List.map_map]
        rfl
      rw [hchars] at hfound hfound'
      have hnone := reportedEntries_texts hfound
      rw [hnone] at hfound hfound'
      rw [hempty hfound, hempty hfound']
  | obj f =>
      obtain ⟨g, rfl⟩ := Json.Alike.obj h
      obtain rfl := Except.ok.inj hitems
      obtain rfl := Except.ok.inj hothers
      have hf := reportedEntries_texts hfound
      have hg := reportedEntries_texts hfound'
      rw [hf] at hfound
      rw [hg] at hfound'
      rw [hempty hfound, hempty hfound']
  | null => exact absurd hitems (by simp [Json.elements])
  | bool b => exact absurd hitems (by simp [Json.elements])
  | int n => exact absurd hitems (by simp [Json.elements])
  | real d => exact absurd hitems (by simp [Json.elements])

theorem alike_reportedFile? (hname : m.name = m'.name) (hversion : m.version = m'.version)
    (h : v.Alike w) (hv : v.Proper) (hw : w.Proper) {found found' : Option Json}
    (hfound : reportedFile? m v = .ok found) (hfound' : reportedFile? m' w = .ok found') :
    found.map Json.sorted = found'.map Json.sorted := by
  obtain ⟨result, hresult, hfound⟩ := Outcome.bind_eq_ok.1 hfound
  obtain ⟨items, hitems, hfound⟩ := Outcome.bind_eq_ok.1 hfound
  obtain ⟨entries, hentries, hfound⟩ := Outcome.bind_eq_ok.1 hfound
  obtain ⟨result', hresult', hfound'⟩ := Outcome.bind_eq_ok.1 hfound'
  obtain ⟨items', hitems', hfound'⟩ := Outcome.bind_eq_ok.1 hfound'
  obtain ⟨entries', hentries', hfound'⟩ := Outcome.bind_eq_ok.1 hfound'
  have hresults := h.require hv hw hresult hresult'
  have halike :=
    alike_elements hname hversion hresults (hv.require hresult) (hw.require hresult') hitems hitems'
      hentries hentries'
  have hisEmpty : entries.isEmpty = entries'.isEmpty := by
    have hlength := congrArg List.length halike
    rw [List.length_map, List.length_map] at hlength
    rw [Bool.eq_iff_iff, List.isEmpty_iff_length_eq_zero, List.isEmpty_iff_length_eq_zero, hlength]
  rw [← hisEmpty] at hfound'
  split at hfound
  · rename_i hnone
    rw [if_pos hnone] at hfound'
    rw [← Except.ok.inj hfound, ← Except.ok.inj hfound']
  · rename_i hsome
    rw [if_neg hsome] at hfound'
    obtain ⟨file, hfile, hfound⟩ := Outcome.bind_eq_ok.1 hfound
    obtain ⟨file', hfile', hfound'⟩ := Outcome.bind_eq_ok.1 hfound'
    rw [← Except.ok.inj hfound, ← Except.ok.inj hfound']
    have hfiles : file.sorted = file'.sorted := h.require hv hw hfile hfile'
    simp only [Option.map_some, Json.sorted, Json.sortedFields, Json.sortedItems_eq, hfiles, halike]

theorem alike_fromReport {r r' : Report} {reference reference' : Option ProjectMeta}
    {output output' : Json} {parts : List Json} (hparts : r.output = .arr parts)
    (hr : r.output.Proper) (hr' : r'.output.Proper) (h : r.output.Alike r'.output)
    (hreference : ProjectMeta.SameName reference reference')
    (houtput : fromReport r reference = .ok output)
    (houtput' : fromReport r' reference' = .ok output') : output.Alike output' := by
  cases reference with
  | none =>
      obtain rfl : reference' = none := Option.map_eq_none_iff.1 hreference.symm
      rw [← Except.ok.inj houtput, ← Except.ok.inj houtput']
      exact Json.Alike.refl _
  | some m =>
      obtain ⟨m', rfl, hm⟩ := Option.map_eq_some_iff.1 hreference.symm
      obtain ⟨hname, hversion⟩ := Prod.mk.inj hm.symm
      obtain ⟨items, hitems, houtput⟩ := Outcome.bind_eq_ok.1 houtput
      obtain ⟨files, hfiles, houtput⟩ := Outcome.bind_eq_ok.1 houtput
      obtain ⟨items', hitems', houtput'⟩ := Outcome.bind_eq_ok.1 houtput'
      obtain ⟨files', hfiles', houtput'⟩ := Outcome.bind_eq_ok.1 houtput'
      rw [← Except.ok.inj houtput, ← Except.ok.inj houtput']
      rw [hparts] at h hr hitems
      obtain ⟨parts', hparts', hsorted⟩ := Json.Alike.arr h
      rw [hparts'] at hr' hitems'
      obtain rfl := Except.ok.inj hitems
      obtain rfl := Except.ok.inj hitems'
      refine Json.alike_arr_iff.2 (filterMap_alike (forall₂_mapM (Json.map_sorted_eq_iff.1 hsorted)
        (fun v hv w hw hvw x y hx hy => ?_) hfiles hfiles'))
      exact alike_reportedFile? hname hversion hvw (hr.items v hv) (hr'.items w hw) hx hy

theorem fromReport_sameName {r : Report} {reference reference' : Option ProjectMeta}
    (h : ProjectMeta.SameName reference reference') :
    fromReport r reference = fromReport r reference' := by
  cases reference with
  | none =>
      obtain rfl : reference' = none := Option.map_eq_none_iff.1 h.symm
      rfl
  | some m =>
      obtain ⟨m', rfl, hm⟩ := Option.map_eq_some_iff.1 h.symm
      obtain ⟨hname, hversion⟩ := Prod.mk.inj hm
      have hitem : reportedItem m = reportedItem m' := by
        funext item
        simp only [reportedItem, entry, exporter, hname, hversion]
      have hfile : reportedFile? m = reportedFile? m' := by
        funext file
        simp only [reportedFile?, reportedEntries, hitem]
      simp only [fromReport, hfile]

theorem inFile_sameName {root : Node} {x y : FileContext} (hpath : x.path = y.path)
    (hreference : ProjectMeta.SameName x.reference y.reference) :
    inFile root x = inFile root y := by
  unfold inFile
  rw [hpath]
  cases hx : x.reference with
  | none =>
      rw [hx] at hreference
      rw [Option.map_eq_none_iff.1 hreference.symm]
  | some m =>
      rw [hx] at hreference
      obtain ⟨m', hy, hm⟩ := Option.map_eq_some_iff.1 hreference.symm
      obtain ⟨hname, hversion⟩ := Prod.mk.inj hm.symm
      rw [hy]
      simp only [entry, exporter, hname, hversion]

end Matches

theorem Imports.inFile_alike {root : Node} {x y : FileContext} (hpath : x.path = y.path)
    (hoptions : x.options.Alike y.options) : inFile root x = inFile root y := by
  have hexternal : ((x.options.get? "onlyExternalSources").getD .null).isEmpty
      = ((y.options.get? "onlyExternalSources").getD .null).isEmpty := by
    have halike := hoptions "onlyExternalSources"
    cases hx : x.options.get? "onlyExternalSources" with
    | none =>
        rw [hx] at halike
        rw [Option.map_eq_none_iff.1 halike.symm]
    | some v =>
        rw [hx] at halike
        obtain ⟨w, hw, hvw⟩ := Option.map_eq_some_iff.1 halike.symm
        rw [hw]
        exact Json.Alike.isEmpty hvw.symm
  simp only [inFile, hpath, hexternal]

theorem Catalogue.respects {a : Analyzer SourceTree} (ha : a ∈ Catalogue.all) : a.Respects := by
  simp only [all, List.mem_cons, List.not_mem_nil, or_false] at ha
  rcases ha with rfl | rfl | rfl | rfl
  · exact ⟨fun tree x y hpath _ hoptions => Imports.inFile_alike hpath hoptions,
      fun rule hrule => absurd hrule (by simp [findImports]), fun rule hrule =>
        absurd hrule (by simp [findImports])⟩
  · exact ⟨fun tree x y _ _ _ => rfl, fun rule hrule => absurd hrule (by simp [findExports]),
      fun rule hrule => absurd hrule (by simp [findExports])⟩
  · refine ⟨fun tree x y hpath hreference _ => Matches.inFile_sameName hpath hreference,
      fun rule hrule => ?_, fun rule hrule => ?_⟩
    · obtain rfl := Option.some.inj hrule
      intro r r' items hitems hr hr' halike reference reference' hreference output output'
        houtput houtput'
      exact Matches.alike_fromReport hitems hr hr' halike hreference houtput houtput'
    · obtain rfl := Option.some.inj hrule
      intro r reference reference' hreference
      exact Matches.fromReport_sameName hreference
  · exact ⟨fun tree x y _ _ _ => rfl, fun rule hrule => absurd hrule (by simp [findDefinitions]),
      fun rule hrule => absurd hrule (by simp [findDefinitions])⟩

end CodeSurvey
