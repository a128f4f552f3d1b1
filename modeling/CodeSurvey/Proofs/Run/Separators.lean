import CodeSurvey.Proofs.Path
import CodeSurvey.Proofs.Report.FileTexts
import CodeSurvey.Proofs.Run.Fields
import CodeSurvey.Proofs.Run.Portable

namespace CodeSurvey

namespace Path

def withBackslashes (path : String) : String :=
  String.ofList (path.toList.map fun c => if c = '/' then '\\' else c)

theorem withSlashes_withBackslashes {path : String} (h : '\\' ∉ path.toList) :
    withSlashes (withBackslashes path) = path := by
  have hchar : ∀ c ∈ path.toList,
      (if (if c = '/' then '\\' else c) = '\\' then '/' else (if c = '/' then '\\' else c))
        = c := by
    intro c hc
    by_cases hslash : c = '/'
    · simp [hslash]
    · have hback : c ≠ '\\' := fun heq => h (heq ▸ hc)
      simp [hslash, hback]
  rw [withSlashes, withBackslashes, String.toList_ofList, List.map_map]
  exact (congrArg String.ofList ((List.map_congr_left hchar).trans (List.map_id' _))).trans
    (String.ofList_toList ..)

end Path

def Json.NoBackslash (v : Json) : Prop := ∀ s ∈ v.fileTexts none, '\\' ∉ s.toList

namespace Fields

theorem put_of_get? {fields : Fields} {name : String} {value : Json}
    (h : fields.get? name = some value) :
    fields.put name value = fields := by
  induction fields with
  | nil => exact absurd h nofun
  | cons field rest ih =>
      obtain ⟨n, v⟩ := field
      by_cases hn : n = name
      · rw [hn, get?_cons_self] at h
        rw [put, if_pos hn, Option.some.inj h]
      · rw [get?_cons_of_ne _ _ (Ne.symm hn)] at h
        rw [put, if_neg hn, ih h]

theorem erase_erase (fields : Fields) (name : String) :
    (fields.erase name).erase name = fields.erase name := by
  rw [erase, erase, List.filter_filter]
  simp

end Fields

def Scope.OfTexts (s : Scope) : Prop := ∀ v ∈ s.extensions ++ s.allowlist, ∃ text, v = .str text

theorem Scope.mapFiles_toJson {s : Scope} (h : s.OfTexts) (f : String → String)
    (key : Option String) :
    s.toJson.mapFiles f key = s.toJson := by
  have hitems {items : List Json} (hsub : items ⊆ s.extensions ++ s.allowlist) :
      items.map (Json.mapFiles f none) = items := by
    refine (List.map_congr_left fun v hv => ?_).trans (List.map_id' items)
    obtain ⟨text, rfl⟩ := h v (hsub hv)
    rfl
  have hextensions := hitems (List.subset_append_left s.extensions s.allowlist)
  have hallowlist := hitems (List.subset_append_right s.extensions s.allowlist)
  rw [toJson, Json.mapFiles_obj, Fields.mapFiles, List.map_cons, List.map_singleton,
    Json.mapFiles_arr, Json.mapFiles_arr, hextensions, hallowlist]

namespace Config

variable {f : String → String} {c : Config}

def mapFiles (f : String → String) (c : Config) : Config :=
  { c with
    options := c.options.mapFiles f
    targetResult := c.targetResult.map (Provided.mapFiles f)
    referenceResult := c.referenceResult.map (Provided.mapFiles f) }

def IsProvided (c : Config) (p : Provided) : Prop := c.targetResult = some p
      ∨ c.referenceResult = some p

structure Documented (c : Config) : Prop where
  gather : ∃ s : Scope, c.gather = .scope s ∧ s.OfTexts
  gatherReference : c.gatherReference = .unset ∨ ∃ s : Scope, c.gatherReference = .scope s
    ∧ s.OfTexts
  provided : ∀ p, c.IsProvided p → p.Documented

structure NoBackslash (c : Config) : Prop where
  options : Json.NoBackslash (.obj c.options)
  provided : ∀ p, c.IsProvided p → p.written.NoBackslash

section Build

variable (f)

theorem putSome_mapFiles (fields : Fields) {name : String} (hname : some name ≠ some "file")
    (value : Option Json) :
    (putSome fields name value).mapFiles f = putSome (fields.mapFiles f) name
    (value.map (Json.mapFiles f none)) := by
  cases value with
  | none => rfl
  | some v =>
      rw [putSome, Fields.put_mapFiles, Json.mapFiles_of_ne f hname, Option.map_some, putSome]

theorem build_mapFiles (c : Config) (gather gatherReference target reference : Option Json) :
    (c.build gather gatherReference target reference).mapFiles f
      = (c.mapFiles f).build (gather.map (Json.mapFiles f none))
        (gatherReference.map (Json.mapFiles f none))
        (target.map (Json.mapFiles f none)) (reference.map (Json.mapFiles f none)) := by
  have hpath (path : Option String) : (path.map Json.str).map (Json.mapFiles f none)
      = path.map Json.str := by
    cases path <;> rfl
  have hskipped (fields : Fields) : Fields.mapFiles f
        (if c.skipCheck then fields.put "skipCheckMatchCompatibility" (.bool true) else fields)
      = if c.skipCheck then (fields.mapFiles f).put "skipCheckMatchCompatibility" (.bool true)
        else fields.mapFiles f := by
    split
    · exact Fields.put_mapFiles f fields _ _
    · rfl
  have hkeys : some targetPathKey ≠ some "file" ∧ some referencePathKey ≠ some "file" := by decide
  simp only [build, putSome_mapFiles f _ (by decide : some "gatherFilesConfig" ≠ some "file"),
    putSome_mapFiles f _ (by decide : some "gatherFilesConfigReference" ≠ some "file"),
    putSome_mapFiles f _ (by decide : some "targetProjectResult" ≠ some "file"),
    putSome_mapFiles f _ (by decide : some "referenceProjectResult" ≠ some "file"),
    putSome_mapFiles f _ hkeys.1, putSome_mapFiles f _ hkeys.2, hpath, hskipped]
  rfl

end Build

section Fields

theorem exists_gather (h : c.Documented) : ∃ gather, c.gather.toJson? = .ok gather
    ∧ ∀ f, gather.map (Json.mapFiles f none) = gather := by
  obtain ⟨s, hs, htexts⟩ := h.gather
  exact ⟨some s.toJson, by rw [hs]; rfl, fun f => congrArg some (s.mapFiles_toJson htexts f none)⟩

theorem exists_gatherReference (h : c.Documented) : ∃ gather, c.gatherReference.toJson? = .ok gather
    ∧ ∀ f, gather.map (Json.mapFiles f none) = gather := by
  rcases h.gatherReference with hunset | ⟨s, hs, htexts⟩
  · exact ⟨none, by rw [hunset]; rfl, fun _ => rfl⟩
  · exact ⟨some s.toJson, by rw [hs]; rfl, fun f => congrArg some (s.mapFiles_toJson htexts f none)⟩

theorem exists_mapM_portable {p : Option Provided} (h : ∀ q, p = some q → q.Documented) :
    ∃ kept, p.mapM Provided.portable = .ok kept
      ∧ ∀ f, (p.map (Provided.mapFiles f)).mapM Provided.portable
      = .ok (kept.map (Json.mapFiles f none)) := by
  cases p with
  | none => exact ⟨none, rfl, fun _ => rfl⟩
  | some q =>
      obtain ⟨kept, hkept⟩ := Provided.exists_portable (h q rfl)
      refine ⟨some kept, by simp [hkept], fun f => ?_⟩
      have hmapped := Provided.portable_mapFiles f none (h q rfl)
      rw [hkept] at hmapped
      simp [hmapped]

theorem exists_toFields (h : c.Documented) :
    ∃ fields, c.toFields = .ok fields ∧ ∀ f, (c.mapFiles f).toFields = .ok (fields.mapFiles f) := by
  obtain ⟨gather, hgather, hfixed⟩ := exists_gather h
  obtain ⟨gatherReference, hgatherReference, hfixed'⟩ := exists_gatherReference h
  obtain ⟨target, htarget, htarget'⟩ := exists_mapM_portable fun p hp => h.provided p (.inl hp)
  obtain ⟨reference, hreference, hreference'⟩ :=
    exists_mapM_portable fun p hp => h.provided p (.inr hp)
  refine ⟨c.build gather gatherReference target reference, ?_, fun f => ?_⟩
  · rw [toFields_eq, hgather, hgatherReference, htarget, hreference]
    rfl
  · have hsame : (c.mapFiles f).gather = c.gather
        ∧ (c.mapFiles f).gatherReference = c.gatherReference := ⟨rfl, rfl⟩
    have hresults : (c.mapFiles f).targetResult = c.targetResult.map (Provided.mapFiles f)
        ∧ (c.mapFiles f).referenceResult = c.referenceResult.map (Provided.mapFiles f) := ⟨rfl, rfl⟩
    rw [toFields_eq, hsame.1, hsame.2, hresults.1, hresults.2, hgather, hgatherReference, htarget',
      hreference', build_mapFiles, hfixed, hfixed']
    rfl

theorem toFields_mapFiles_of_fixed (hoptions : ∀ s ∈ (Json.obj c.options).fileTexts none, f s = s)
    (hprovided : ∀ p, c.IsProvided p → ∀ s ∈ p.written.fileTexts none, f s = s) :
    (c.mapFiles f).toFields = c.toFields := by
  have hsame : c.options.mapFiles f = c.options := by
    have hobj := Json.mapFiles_eq_self hoptions
    rwa [Json.mapFiles_obj, Json.obj.injEq] at hobj
  have hresult {p : Option Provided} (h : ∀ q, p = some q → c.IsProvided q) :
      (p.map (Provided.mapFiles f)).mapM Provided.portable = p.mapM Provided.portable := by
    cases p with
    | none => rfl
    | some q => simp [Provided.portable_mapFiles_of_fixed (hprovided q (h q rfl))]
  have htarget := hresult fun q (hq : c.targetResult = some q) => .inl hq
  have hreference := hresult fun q (hq : c.referenceResult = some q) => .inr hq
  rw [toFields_eq, toFields_eq]
  simp only [mapFiles, hsame, htarget, hreference]
  rfl

end Fields

end Config

namespace Portable

section Strip

variable (f : String → String)

theorem stripEntry_mapFiles (v : Json) :
    stripEntry (v.mapFiles f none) = (stripEntry v).mapFiles f none := by
  cases v with
  | obj fields =>
      have hkept := Json.mapFiles_obj f none fields
      rw [hkept, stripEntry, stripEntry, Fields.get?_mapFiles]
      cases Fields.get? fields "project" with
      | none => exact hkept.symm
      | some project =>
          cases project with
          | obj project =>
              rw [Option.map_some, Json.mapFiles_obj]
              dsimp only
              rw [Json.mapFiles_obj, Fields.put_mapFiles, Json.mapFiles_obj, Fields.erase_mapFiles]
          | arr items =>
              rw [Option.map_some, Json.mapFiles_arr]
              exact hkept.symm
          | str s =>
              rw [Option.map_some, Json.mapFiles_str f (by decide)]
              exact hkept.symm
          | _ => exact hkept.symm
  | arr items =>
      rw [Json.mapFiles_arr]
      exact (Json.mapFiles_arr f none items).symm
  | _ => rfl

theorem stripPaths_mapFiles (v : Json) :
    stripPaths (v.mapFiles f none) = (stripPaths v).mapFiles f none := by
  cases v with
  | arr items =>
      rw [Json.mapFiles_arr, stripPaths, stripPaths, Json.mapFiles_arr, List.map_map, List.map_map]
      exact congrArg Json.arr (List.map_congr_left fun v _ => stripEntry_mapFiles f v)
  | obj fields =>
      rw [Json.mapFiles_obj]
      exact (Json.mapFiles_obj f none fields).symm
  | _ => rfl

theorem stripEntry_stripEntry (v : Json) : stripEntry (stripEntry v) = stripEntry v := by
  cases v with
  | obj fields =>
      rw [stripEntry]
      split
      · rename_i project hproject
        rw [stripEntry, Fields.get?_put_self]
        dsimp only
        rw [Fields.erase_erase, Fields.put_of_get? (Fields.get?_put_self _ _ _)]
      · rename_i hproject
        rw [stripEntry]
        split
        · rename_i project hobject
          exact absurd hobject (hproject project)
        · rfl
  | _ => rfl

theorem stripPaths_stripPaths (v : Json) : stripPaths (stripPaths v) = stripPaths v := by
  cases v with
  | arr items =>
      rw [stripPaths, stripPaths, List.map_map]
      exact congrArg Json.arr (List.map_congr_left fun v _ => stripEntry_stripEntry v)
  | _ => rfl

end Strip

section Configuration

variable {c : Config}

theorem dropResult_mapFiles (f : String → String) (fields : Fields) :
    dropResult (fields.mapFiles f) = (dropResult fields).mapFiles f := by
  rw [dropResult, dropResult, Fields.has_mapFiles, Fields.erase_mapFiles, Fields.erase_mapFiles]
  split <;> rfl

theorem exists_configuration (h : c.Documented) :
    ∃ fields, configuration c = .ok fields
      ∧ ∀ f, configuration (c.mapFiles f) = .ok (fields.mapFiles f) := by
  obtain ⟨fields, hfields, hmapped⟩ := Config.exists_toFields h
  refine ⟨dropResult (Config.withoutPaths fields), by rw [configuration, hfields]; rfl, fun f => ?_⟩
  have hpaths : Config.withoutPaths (fields.mapFiles f) = (Config.withoutPaths fields).mapFiles f :=
    Fields.filter_mapFiles f fields Config.isSetting
  rw [configuration, hmapped, Outcome.ok_bind, hpaths, dropResult_mapFiles]
  rfl

def turned : String → String := Path.withSlashes ∘ Path.withBackslashes

theorem turned_eq_self {v : Json} (h : v.NoBackslash) : ∀ s ∈ v.fileTexts none, turned s = s :=
  fun s hs => Path.withSlashes_withBackslashes (h s hs)

theorem configuration_turned (h : c.NoBackslash) :
    configuration (c.mapFiles turned) = configuration c := by
  rw [configuration, configuration, Config.toFields_mapFiles_of_fixed (turned_eq_self h.options)
    fun p hp => turned_eq_self (h.provided p hp)]

end Configuration

section Findings

variable {output : Json} (h : output.NoBackslash)

include h

theorem findings_slash :
    findings "\\" (output.mapFiles Path.withBackslashes none) = stripPaths output := by
  have hturned : output.mapFiles turned none = output := Json.mapFiles_eq_self (turned_eq_self h)
  rw [findings, if_neg (by decide), withSlashes_eq, stripPaths_mapFiles, Json.mapFiles_mapFiles]
  exact (stripPaths_mapFiles turned output).symm.trans (congrArg stripPaths hturned)

theorem findings_stripPaths (separator : String) :
    findings separator (stripPaths output) = stripPaths output := by
  have hfixed : output.mapFiles Path.withSlashes none = output :=
    Json.mapFiles_eq_self fun s hs => Path.withSlashes_of_no_backslash (h s hs)
  unfold findings
  split
  · exact stripPaths_stripPaths output
  · rw [stripPaths_stripPaths, withSlashes_eq, ← stripPaths_mapFiles, hfixed]

end Findings

section Report

variable {output other : Json} {c d : Config} {fields fields' : Fields} {label : Label}
  {target reference : Option ProjectMeta} {separator separator' : String} {r : Report}

theorem sameButFiles_findings (separator : String) (output : Json) :
    Json.SameButFiles none (stripPaths output) (findings separator output) := by
  unfold findings
  split
  · exact .same none _
  · rw [withSlashes_eq]
    exact Json.sameButFiles_mapFiles _ none _

theorem sameButFiles_settings (separator : String) (fields : Fields) :
    fields.SameButFiles (if separator = "/" then fields else fieldsWithSlashes fields) := by
  split
  · exact List.forall₂_same.2 fun _ _ => .value (.same _ _)
  · rw [fieldsWithSlashes_eq_mapFiles]
    exact Fields.sameButFiles_mapFiles _ fields

theorem sameButFiles_report (h : report output c label target reference separator = .ok r) :
    Json.SameButFiles none (stripPaths output) r.output
      ∧ ∃ fields, configuration c = .ok fields ∧ fields.SameButFiles r.about.configuration := by
  obtain ⟨fields, hfields, rfl⟩ := report_eq_ok h
  exact ⟨sameButFiles_findings separator output, fields, hfields,
    sameButFiles_settings separator fields⟩

theorem report_congr (hc : configuration c = .ok fields) (hd : configuration d = .ok fields')
    (houtput : findings separator output = findings separator' other)
    (hsettings : (if separator = "/" then fields else fieldsWithSlashes fields)
      = if separator' = "/" then fields' else fieldsWithSlashes fields') :
    report output c label target reference separator
      = report other d label target reference separator' := by
  obtain ⟨r, hr⟩ := report_of_configuration hc output label target reference separator
  obtain ⟨s, hs⟩ := report_of_configuration hd other label target reference separator'
  rw [hr, hs]
  obtain ⟨own, hown, rfl⟩ := report_eq_ok hr
  obtain ⟨foreign, hforeign, rfl⟩ := report_eq_ok hs
  obtain rfl := Except.ok.inj (hc.symm.trans hown)
  obtain rfl := Except.ok.inj (hd.symm.trans hforeign)
  rw [houtput, hsettings]

theorem report_of_backslashes {output : Json} {c : Config} (hc : c.Documented)
    (houtput : output.NoBackslash) (hslashes : c.NoBackslash) (label : Label)
    (target reference : Option ProjectMeta) :
    ∃ r, report output c label target reference "/" = .ok r
      ∧ report (output.mapFiles Path.withBackslashes none) (c.mapFiles Path.withBackslashes) label
        target reference "\\" = .ok r
      ∧ Json.SameButFiles none (stripPaths (output.mapFiles Path.withBackslashes none)) r.output
      ∧ (∃ fields, configuration (c.mapFiles Path.withBackslashes) = .ok fields
        ∧ fields.SameButFiles r.about.configuration)
      ∧ ∀ c' fields', configuration c' = .ok fields' → ∀ label' target' reference' separator,
        ∃ again, report r.output c' label' target' reference' separator = .ok again
          ∧ again.output = r.output := by
  obtain ⟨fields, hfields, hmapped⟩ := exists_configuration hc
  have hback : fieldsWithSlashes (fields.mapFiles Path.withBackslashes) = fields := by
    rw [fieldsWithSlashes_eq_mapFiles, Fields.mapFiles_mapFiles]
    exact Except.ok.inj
      ((hmapped turned).symm.trans ((configuration_turned hslashes).trans hfields))
  obtain ⟨r, hr⟩ := report_of_configuration hfields output label target reference "/"
  have hforeign :
      report (output.mapFiles Path.withBackslashes none) (c.mapFiles Path.withBackslashes) label
        target reference "\\" = .ok r := by
    rw [← hr]
    exact report_congr (hmapped _) hfields (findings_slash houtput) hback
  obtain ⟨hsame, hsettings⟩ := sameButFiles_report hforeign
  refine ⟨r, hr, hforeign, hsame, hsettings,
    fun c' fields' hfields' label' target' reference' separator => ?_⟩
  have hkept : r.output = stripPaths output := output_report hr
  rw [hkept]
  obtain ⟨again, hagain⟩ :=
    report_of_configuration hfields' (stripPaths output) label' target' reference' separator
  exact ⟨again, hagain, (output_report hagain).trans (findings_stripPaths houtput separator)⟩

end Report

section Example

def surveyedEntries : Json :=
  .arr [.obj [("file", .str "./src/a.js"),
    ("result",
      .arr [.obj [("deep", .obj [("file", .str "a/b/c.js")]), ("other", .str "a/b"),
        ("line", .int 3)]]),
    ("project", .obj [("name", .str "app"), ("path", .str "/work/app")])]]

def providedEntries : Json :=
  .obj [("queryOutput", .arr [.obj [("file", .str "./b/c.js")]]),
    ("meta", .obj [("analyzerMeta", .obj [("name", .str "find-imports"), ("configuration", .obj []),
      ("targetProject", .obj [("name", .str "app"), ("version", .str "1.0.0")])])])]

def slashedSettings : Config :=
  { options := [("file", .str "lib/index.js"), ("paths", .arr [.str "a/b"])]
    targetResult := some (.raw providedEntries)
    referenceResult := some (.raw providedEntries) }

theorem report_of_backslashes_surveyedEntries :
    slashedSettings.Documented ∧ surveyedEntries.NoBackslash ∧ slashedSettings.NoBackslash
    ∧ (surveyedEntries.mapFiles Path.withBackslashes none).fileTexts none
      = [".\\src\\a.js", "a\\b\\c.js"]
    ∧ ∃ r, report surveyedEntries slashedSettings ⟨"match", "javascript", "app"⟩ none none "/"
        = .ok r
      ∧ report (surveyedEntries.mapFiles Path.withBackslashes none)
        (slashedSettings.mapFiles Path.withBackslashes)
        ⟨"match", "javascript", "app"⟩ none none "\\" = .ok r := by
  have hprovided {p : Provided} (hp : slashedSettings.IsProvided p) : p = .raw providedEntries := by
    rcases hp with hp | hp
    · exact (Option.some.inj hp).symm
    · exact (Option.some.inj hp).symm
  have hdocumented : slashedSettings.Documented := by
    refine ⟨⟨{}, rfl, ?_⟩, .inl rfl, fun p hp => ?_⟩
    · intro v hv
      exact ⟨".js", List.mem_singleton.1 hv⟩
    · rw [hprovided hp]
      refine ⟨⟨_, rfl⟩, _, rfl, ?_, ?_, ?_⟩
      · intro u hu
        exact ⟨[], (Option.some.inj hu).symm⟩
      · intro u hu
        refine .inr ⟨_, (Option.some.inj hu).symm, ?_⟩
        rintro name (rfl | rfl) u hu
        · exact ⟨_, (Option.some.inj hu).symm⟩
        · exact ⟨_, (Option.some.inj hu).symm⟩
      · intro u hu
        exact absurd hu nofun
  have houtput : surveyedEntries.NoBackslash := by
    unfold Json.NoBackslash
    decide +kernel
  have hsettings : slashedSettings.NoBackslash := by
    refine ⟨?_, fun p hp => ?_⟩
    · unfold Json.NoBackslash
      decide +kernel
    · rw [hprovided hp]
      unfold Json.NoBackslash
      decide +kernel
  have hturned : (surveyedEntries.mapFiles Path.withBackslashes none).fileTexts none
      = [".\\src\\a.js", "a\\b\\c.js"] := by
    rw [Json.fileTexts_mapFiles]
    decide +kernel
  obtain ⟨r, hown, hother, -⟩ :=
    report_of_backslashes hdocumented houtput hsettings ⟨"match", "javascript", "app"⟩ none none
  exact ⟨hdocumented, houtput, hsettings, hturned, r, hown, hother⟩

end Example

end Portable

end CodeSurvey
