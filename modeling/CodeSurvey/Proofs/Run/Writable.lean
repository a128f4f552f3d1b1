import CodeSurvey.Proofs.Analysis.Upstream
import CodeSurvey.Proofs.Json.RoundTrip
import CodeSurvey.Proofs.Run.Endings
import CodeSurvey.Proofs.Run.Fields

namespace CodeSurvey

namespace Json

def Fits (d : Nat) (v : Json) : Prop := limits maxIntegerDigits d v = .ok ()

variable {d : Nat}

theorem checkWritable_iff_fits {v : Json} : v.checkWritable = .ok () ↔ v.Fits assumedDepth :=
  checkWritable_eq_ok_iff

theorem Fits.mono {more : Nat} {v : Json} (h : v.Fits d) (hmore : d ≤ more) : v.Fits more :=
  limits_mono (Nat.le_refl _) hmore h

theorem Fits.exists_succ {v : Json} (h : v.Fits d) : ∃ n, d = n + 1 := by
  cases d with
  | zero => exact absurd h (by simp [Fits, limits])
  | succ n => exact ⟨n, rfl⟩

@[simp]
theorem fits_null : null.Fits (d + 1) := rfl

@[simp]
theorem fits_str (s : String) : (str s).Fits (d + 1) := rfl

@[simp]
theorem fits_arr {items : List Json} : (arr items).Fits (d + 1) ↔ ∀ v ∈ items, v.Fits d := by
  rw [Fits, limits, forM_eq_ok]
  rfl

@[simp]
theorem fits_obj {fields : Fields} : (obj fields).Fits (d + 1)
      ↔ ∀ field ∈ fields, field.2.Fits d := by
  rw [Fits, limits, forM_eq_ok]
  rfl

theorem fits_nested {n : Nat} : (nested n).Fits d ↔ n < d := by
  rw [Fits, limits_nested]
  split
  · simp [*]
  · simp [*]

theorem fits_ofTexts (texts : List String) : (ofTexts texts).Fits (d + 2) := by
  refine fits_arr.2 fun v hv => ?_
  obtain ⟨s, -, rfl⟩ := List.mem_map.1 hv
  exact fits_str s

theorem Fits.withSlashes {k : Option String} {v : Json} (h : v.Fits d) :
    (Portable.withSlashes k v).Fits d := by
  obtain ⟨d, rfl⟩ := h.exists_succ
  induction v using Json.induct generalizing k d with
  | arr items ih =>
      rw [Portable.withSlashes, Portable.itemsWithSlashes_eq, fits_arr, List.forall_mem_map]
      intro v hv
      have hfits := fits_arr.1 h v hv
      obtain ⟨n, rfl⟩ := hfits.exists_succ
      exact ih v hv n hfits
  | obj fields ih =>
      rw [Portable.withSlashes, Portable.fieldsWithSlashes_eq, fits_obj, List.forall_mem_map]
      intro field hfield
      have hfits := fits_obj.1 h field hfield
      obtain ⟨n, rfl⟩ := hfits.exists_succ
      exact ih field hfield n hfits
  | str s =>
      unfold Portable.withSlashes
      split
      · exact fits_str _
      · exact fits_str _
  | _ => exact h

end Json

open Json

theorem Report.mark_of_fromCache {r : Report} {fromCache : Bool}
    (h : r.about.fromCache = fromCache) :
    r.mark fromCache = r := by
  obtain ⟨output, about⟩ := r
  subst h
  rfl

structure Report.Fits (d : Nat) (r : Report) : Prop where
  output : r.output.Fits d
  about : r.about.toJson.Fits d

theorem Report.Fits.toPlain {d : Nat} {r : Report} (h : r.Fits d) : r.toPlain.Fits (d + 1) := by
  simp [Report.toPlain, h.output, h.about]

theorem Report.Fits.portable {d : Nat} {r : Report} (h : r.Fits d)
    (hnew : r.about.fromCache = false) :
    r.portable.Fits (d + 1) := by
  rw [Report.portable, Report.mark_of_fromCache hnew]
  exact h.toPlain

theorem Report.Fits.writable {d : Nat} {r : Report} (h : r.Fits d) (hd : d + 2 ≤ assumedDepth) :
    r.toWrapped.checkWritable = .ok () := by
  refine checkWritable_iff_fits.2 (Json.Fits.mono (d := d + 2) ?_ hd)
  simp [Report.toWrapped, h.about, h.output.mono (Nat.le_succ d)]

theorem Report.fits_configuration {r : Report} (h : r.toWrapped.checkWritable = .ok ()) :
    (obj r.about.configuration).Fits 987 := by
  have hrow := (fits_obj (d := 989)).1 (checkWritable_iff_fits.1 h)
  have hmeta :=
    (fits_obj (d := 988)).1 (hrow ("meta", .obj [("analyzerMeta", r.about.toJson)]) (by simp))
  have habout := (fits_obj (d := 987)).1 (hmeta ("analyzerMeta", r.about.toJson) List.mem_cons_self)
  exact habout ("configuration", _) (by simp [ReportMeta.toFields])

namespace Matches

theorem fits_outputOf {files : List (String × List Imports.Entry)}
    {find : List Imports.Entry → Findings} (habout : ∀ entries, (find entries).about = .null)
    (hresult : ∀ entries, ∀ v ∈ (find entries).result, v.Fits 3) :
    (Survey.outputOf (files.map fun file => (file.1, find file.2))).Fits 6 := by
  rw [outputOf_map, fits_arr]
  intro v hv
  obtain ⟨file, -, rfl⟩ := List.mem_map.1 hv
  simpa [Survey.entryJson, habout] using hresult file.2

theorem fits_importsOutput (external : Bool) (files : List (String × List Imports.Entry)) :
    (importsOutput external files).Fits 6 := by
  refine fits_outputOf (fun _ => rfl) fun entries v hv => ?_
  obtain ⟨e, -, rfl⟩ := List.mem_map.1 hv
  simp [Imports.Entry.toJson, fits_ofTexts]

theorem fits_matchesOutput (reference : Option ProjectMeta)
    (files : List (String × List Imports.Entry)) :
    (matchesOutput reference files).Fits 6 := by
  cases reference with
  | none => exact fits_arr.2 fun _ h => absurd h List.not_mem_nil
  | some reference =>
      refine fits_outputOf (fun _ => rfl) fun entries v hv => ?_
      obtain ⟨e, -, rfl⟩ := List.mem_map.1 hv
      simp [entry, fits_ofTexts]

end Matches

namespace Survey

variable {Tree : Type} {w : Surroundings Tree} {a : Analyzer Tree} {p : Prepared} {r : Report}

structure Prepared.Fits (d : Nat) (p : Prepared) : Prop where
  settings : ∃ fields, p.config.settings = .ok fields ∧ (obj fields).Fits d
  target : (Identity.projectSeed p.target).Fits d
  reference : (Identity.projectSeed p.reference).Fits d

theorem Prepared.Fits.configuration {d : Nat} {fields : Fields} (h : p.Fits (d + 1))
    (hfields : Portable.configuration p.config = .ok fields) : (obj fields).Fits (d + 1) := by
  obtain ⟨settings, hsettings, hfits⟩ := h.settings
  rw [Portable.configuration_eq, hsettings] at hfields
  obtain rfl := Except.ok.inj hfields
  refine fits_obj.2 fun field hfield => fits_obj.1 hfits field ?_
  unfold Portable.dropResult at hfield
  split at hfield
  · exact List.mem_of_mem_filter hfield
  · exact List.mem_of_mem_filter hfield

theorem checkWritable_of_fits {d : Nat} (h : p.Fits (d + 1)) (hd : d + 2 ≤ assumedDepth) :
    Identity.checkWritable p.target p.reference p.config = .ok () := by
  obtain ⟨settings, hsettings, hfits⟩ := h.settings
  rw [Identity.checkWritable, Identity.seed_eq, hsettings]
  refine checkWritable_iff_fits.2 (Json.Fits.mono (d := d + 2) (fits_obj.2 ?_) hd)
  simp only [List.forall_mem_cons]
  refine ⟨h.target, h.reference, fits_obj.2 fun field hfield => ?_, fun _ h =>
    absurd h List.not_mem_nil⟩
  exact fits_obj.1 hfits field (List.mem_of_mem_filter hfield)

theorem fits_made {d : Nat} (hp : p.Fits (d + 1)) (h : made w a p = .ok r)
    (houtput : r.output.Fits (d + 1)) :
    r.Fits (d + 2) := by
  obtain ⟨p', output, hcollect, -, hreport⟩ := made_eq_ok h
  obtain ⟨files, rfl⟩ := collect_files hcollect
  obtain ⟨fields, hfields, rfl⟩ := Portable.report_eq_ok hreport
  have hconfiguration := hp.configuration hfields
  refine ⟨houtput.mono (Nat.le_succ _), fits_obj.2 ?_⟩
  simp only [ReportMeta.toFields, label, List.mem_append, List.mem_cons, List.not_mem_nil, or_false,
    Option.mem_toList, Bool.false_eq_true, if_false]
  rintro field ((((rfl | rfl | rfl) | htarget) | hreference) | rfl)
  · exact fits_str _
  · exact fits_str _
  · exact fits_str _
  · simp only [Option.map_eq_some_iff] at htarget
    obtain ⟨_, ⟨m, hm, rfl⟩, rfl⟩ := htarget
    have hfits := hp.target
    rwa [hm] at hfits
  · simp only [Option.map_eq_some_iff] at hreference
    obtain ⟨_, ⟨m, hm, rfl⟩, rfl⟩ := hreference
    have hfits := hp.reference
    rwa [hm] at hfits
  · show (obj (if w.separator = "/" then fields else Portable.fieldsWithSlashes fields)).Fits
      (d + 1)
    split
    · exact hconfiguration
    · exact Json.Fits.withSlashes (k := none) hconfiguration

end Survey

end CodeSurvey
