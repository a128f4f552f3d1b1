import CodeSurvey.Proofs.Analysis.Alike
import CodeSurvey.Proofs.Run.Alike
import CodeSurvey.Proofs.Run.Matching

namespace CodeSurvey

namespace Survey

section Files

variable {Tree : Type} {reader : SourceReader Tree} {current current' : String} {root other : Place}

structure SameParsed (current current' : String) (root other : Place) (f g : ParsedFile Tree) :
    Prop where
  tree : f.tree = g.tree
  name : Path.nameFromRoot current f.file ("/" ++ Path.join root)
    = Path.nameFromRoot current' g.file ("/" ++ Path.join other)

theorem readFiles_below {entries entries' : List SourceFile}
    (h : List.Forall₂ (ProjectFiles.SameFile current current' root other) entries entries') :
    Outcome.Agree (fun parsed parsed' : ParsedProject Tree =>
        List.Forall₂ (SameParsed current current' root other) parsed.entries parsed'.entries)
      (readFiles reader entries) (readFiles reader entries') := by
  induction h with
  | nil => exact .ok .nil
  | @cons f g _ _ hfg _ ih =>
      rw [readFiles, readFiles, hfg.text]
      refine (Outcome.Agree.of_eq rfl).bind fun tree tree' _ _ hsame =>
        ih.bind fun project project' _ _ hrest => ?_
      subst hsame
      cases tree with
      | none => exact .ok hrest
      | some tree => exact .ok (.cons ⟨rfl, hfg.name⟩ hrest)

variable {w w' : Surroundings Tree} {a : Analyzer Tree} {p p' : Prepared}

theorem findings_below (ha : a.Respects)
    (hreference : ProjectMeta.SameName p.reference p'.reference)
    (hoptions : p.config.options.Alike p'.config.options) (project project' : ProjectMeta)
    {files files' : List (ParsedFile Tree)}
    (h : List.Forall₂ (SameParsed w.folder w'.folder root other) files files') :
    files.mapM (findingsIn w a p project ("/" ++ Path.join root))
      = files'.mapM (findingsIn w' a p' project' ("/" ++ Path.join other)) := by
  induction h with
  | nil => rw [List.mapM_nil, List.mapM_nil]
  | @cons f g _ _ hfg _ ih =>
      have hfirst : findingsIn w a p project ("/" ++ Path.join root) f
          = findingsIn w' a p' project' ("/" ++ Path.join other) g := by
        have hfile (path : String) := ha.inFile g.tree
          { text := f.text, path, project, reference := p.reference, options := p.config.options }
          { text := g.text, path, project := project', reference := p'.reference,
            options := p'.config.options }
          rfl hreference hoptions
        simp only [findingsIn, hfg.tree, hfg.name, hfile]
      rw [List.mapM_cons, List.mapM_cons, hfirst, ih]

theorem fromFiles_below (ha : a.Respects) (hreaders : w.readerFor = w'.readerFor)
    (hreference : ProjectMeta.SameName p.reference p'.reference)
    (hoptions : p.config.options.Alike p'.config.options) {input input' : ProjectInput}
    (h : ProjectFiles.SameInput w.folder w'.folder input input') :
    Outcome.Agree Eq (fromFiles w a p input).outcome (fromFiles w' a p' input').outcome := by
  obtain ⟨root, other, hroot, hroot', hfiles⟩ := h
  rw [outcome_fromFiles, outcome_fromFiles, rootOf_of_place hroot, rootOf_of_place hroot', hreaders]
  refine (Outcome.Agree.of_eq rfl).bind fun reader reader' _ _ hsame => ?_
  subst hsame
  refine (readFiles_below hfiles).bind fun parsed parsed' _ _ hparsed => ?_
  exact .of_eq
    (by rw [findings_below ha hreference hoptions _ (p'.target.getD input'.project) hparsed])

end Files

section Fresh

variable {Tree : Type} {w : Surroundings Tree} {a : Analyzer Tree} {c : Config} {p : Prepared}
  {r : Report}

def OneTarget (c : Config) : Prop := c.targetResult = none ∨ Config.given c.targetPath = none

structure MadeFromFiles (w : Surroundings Tree) (a : Analyzer Tree) (p : Prepared) (path : String)
    (m : ProjectMeta) (input : ProjectInput) (output : Json) : Prop where
  target : p.config.targetResult = none
  described : w.describe path = .ok m
  about : p.target = some m
  gathered : w.gather path (scopeFor p.config) = .ok input
  found : (fromFiles w a p input).outcome = .ok output

structure MadeFromReport (a : Analyzer Tree) (p : Prepared) (source : Report) (items : List Json)
    (rule : Report → Option ProjectMeta → Except Fault Json) (output : Json) : Prop where
  target : p.config.targetResult = some (.report source)
  listed : source.output = .arr items
  applies : a.fromReport = some rule
  found : rule source p.reference = .ok output

theorem made_cases (hp : Named w a c p) (hone : OneTarget c) (h : made w a p = .ok r) :
    ∃ output, reportOf w a p output = .ok r
      ∧ ((∃ path m input, MadeFromFiles w a p path m input output)
        ∨ ∃ source items rule, MadeFromReport a p source items rule output) := by
  obtain ⟨target, reference, htarget, -, hconfig⟩ := Config.unwound_eq hp.unwound
  have hresult : p.config.targetResult = target.map .report := by rw [hconfig]
  have hpath : p.config.targetPath = c.targetPath := by rw [hconfig]
  cases target with
  | none =>
      cases hgiven : Config.given p.config.targetPath with
      | none =>
          obtain ⟨reused, hreusable⟩ := exists_reusable hp.validated hgiven
          obtain ⟨provided, _, _, hprovided, -⟩ := reusable_eq_some hreusable
          exact absurd (hresult.symm.trans hprovided) (by simp)
      | some path =>
          have hmeta := hp.target
          unfold targetMeta at hmeta
          rw [hresult, (Option.filter_eq_some_iff.1 hgiven).1] at hmeta
          obtain ⟨m, hm, habout⟩ := Outcome.map_eq_ok.1 hmeta
          rw [made_of_files hresult hgiven] at h
          obtain ⟨input, hinput, h⟩ := Outcome.bind_eq_ok.1 h
          obtain ⟨_, -, h⟩ := Outcome.bind_eq_ok.1 h
          obtain ⟨output, houtput, hreport⟩ := Outcome.bind_eq_ok.1 h
          exact ⟨output, hreport, .inl ⟨path, m, input, hresult, hm, habout.symm, hinput, houtput⟩⟩
  | some source =>
      have hgiven : Config.given p.config.targetPath = none := by
        rcases hone with hnone | hnone
        · rw [hnone] at htarget
          exact absurd (Except.ok.inj htarget) (by simp)
        · rw [hpath, hnone]
      obtain ⟨reused, hreusable⟩ := exists_reusable hp.validated hgiven
      obtain ⟨provided, rule, items, hprovided, hrule, hunwind, hitems⟩ :=
        reusable_eq_some hreusable
      rw [hresult] at hprovided
      obtain rfl := Option.some.inj hprovided
      obtain rfl := Except.ok.inj hunwind
      rw [made_of_report hreusable hrule] at h
      obtain ⟨_, -, h⟩ := Outcome.bind_eq_ok.1 h
      obtain ⟨output, houtput, hreport⟩ := Outcome.bind_eq_ok.1 h
      exact ⟨output, hreport, .inr ⟨source, items, rule, hresult, hitems, hrule, houtput⟩⟩

end Fresh

end Survey

namespace Report

variable {r r' : Report}

theorem sortedFields_option (name : String) (p : Option ProjectMeta) :
    Json.sortedFields (p.map fun m => (name, m.toJson)).toList
      = (((p.map ProjectMeta.toJson).map Json.sorted).map (Prod.mk name)).toList := by
  cases p <;> rfl

theorem alike_toWrapped (houtput : r.output.Alike r'.output)
    (hanalyzer : r.about.analyzer = r'.about.analyzer)
    (hdialect : r.about.dialect = r'.about.dialect)
    (hidentifier : r.about.identifier = r'.about.identifier)
    (hmark : r.about.fromCache = r'.about.fromCache)
    (htarget : (r.about.target.map ProjectMeta.toJson).map Json.sorted
      = (r'.about.target.map ProjectMeta.toJson).map Json.sorted)
    (hreference : (r.about.reference.map ProjectMeta.toJson).map Json.sorted
      = (r'.about.reference.map ProjectMeta.toJson).map Json.sorted)
    (hconfiguration : Json.Alike (.obj r.about.configuration) (.obj r'.about.configuration)) :
    r.toWrapped.Alike r'.toWrapped := by
  have hfields : Json.sortedFields r.about.toFields = Json.sortedFields r'.about.toFields := by
    have happend (f g : Fields) : Json.sortedFields (f ++ g)
        = Json.sortedFields f ++ Json.sortedFields g := by
      simp only [Json.sortedFields_eq, List.map_append]
    have hlast : Json.sortedFields [("configuration", .obj r.about.configuration)]
        = Json.sortedFields [("configuration", .obj r'.about.configuration)] :=
      congrArg (fun v => [("configuration", v)]) hconfiguration
    simp only [ReportMeta.toFields, happend, hanalyzer, hdialect, hidentifier, hmark,
      sortedFields_option, htarget, hreference, hlast]
  have hsorted : r.output.sorted = r'.output.sorted := houtput
  simp only [Json.Alike, toWrapped, ReportMeta.toJson, Json.sorted, Json.sortedFields,
    hfields, hsorted]

end Report

namespace Portable

def NamesProject (v : Json) : Prop := ∃ f inner, v = .obj f
      ∧ Fields.get? f "project" = some (.obj inner)

theorem stripEntry_eq_self {v : Json} (h : ¬NamesProject v) : stripEntry v = v := by
  unfold stripEntry
  split
  · rename_i fields
    split
    · rename_i inner hproject
      exact absurd ⟨fields, inner, rfl, hproject⟩ h
    · rfl
  · rfl

theorem namesProject_of_alike {v w : Json} (h : v.Alike w) (hv : v.Proper) (hw : w.Proper)
    (hproject : NamesProject v) :
    NamesProject w := by
  obtain ⟨f, inner, rfl, hproject⟩ := hproject
  obtain ⟨g, rfl⟩ := Json.Alike.obj h
  have hfields := (Fields.alike_iff (Fields.Proper.nodup hv) (Fields.Proper.nodup hw)).1 h
  obtain ⟨project, hproject', halike⟩ := hfields.get hproject
  obtain ⟨inner', rfl⟩ := Json.Alike.obj halike
  exact ⟨g, inner', rfl, hproject'⟩

theorem alike_stripEntry {v w : Json} (h : v.Alike w) (hv : v.Proper) (hw : w.Proper) :
    (stripEntry v).Alike (stripEntry w) := by
  by_cases hnames : NamesProject v
  · obtain ⟨g, inner', rfl, hproject'⟩ := namesProject_of_alike h hv hw hnames
    obtain ⟨f, inner, rfl, hproject⟩ := hnames
    have hf : Fields.Proper f := hv
    have hg : Fields.Proper g := hw
    have hinner : Fields.Proper inner := hf.get hproject
    have hinner' : Fields.Proper inner' := hg.get hproject'
    have hfields := (Fields.alike_iff hf.nodup hg.nodup).1 h
    obtain ⟨project, hget, halike⟩ := hfields.get hproject
    obtain rfl := Option.some.inj (hproject'.symm.trans hget)
    have herased :
        Json.Alike (.obj (Fields.erase inner "path")) (.obj (Fields.erase inner' "path")) :=
      (Fields.alike_iff (hinner.erase _).nodup (hinner'.erase _).nodup).2
        (((Fields.alike_iff hinner.nodup hinner'.nodup).1 halike).erase _)
    have hput := (Fields.alike_iff (hf.put "project" (hinner.erase _)).nodup
      (hg.put "project" (hinner'.erase _)).nodup).2 (hfields.put "project" herased)
    simp only [stripEntry, hproject, hproject']
    exact hput
  · have hnames' : ¬NamesProject w := fun hproject =>
      hnames (namesProject_of_alike h.symm hw hv hproject)
    rw [stripEntry_eq_self hnames, stripEntry_eq_self hnames']
    exact h

theorem alike_stripPaths {v w : Json} (h : v.Alike w) (hv : v.Proper) (hw : w.Proper) :
    (stripPaths v).Alike (stripPaths w) := by
  by_cases hlist : v.IsList
  · obtain ⟨items, rfl⟩ := hlist
    obtain ⟨others, rfl, hsorted⟩ := Json.Alike.arr h
    refine Json.alike_arr_iff.2
      (Json.map_sorted_map (Json.map_sorted_eq_iff.1 hsorted) fun v hmem w hmem' hvw => ?_)
    exact alike_stripEntry hvw (hv.items v hmem) (hw.items w hmem')
  · have hother {v : Json} (h : ¬v.IsList) : stripPaths v = v := by
      unfold stripPaths
      split
      · rename_i entries
        exact absurd ⟨entries, rfl⟩ h
      · rfl
    have hlist' : ¬w.IsList := by
      rintro ⟨others, rfl⟩
      obtain ⟨items, rfl, -⟩ := Json.Alike.arr h.symm
      exact hlist ⟨items, rfl⟩
    rw [hother hlist, hother hlist']
    exact h

theorem alike_findings (separator : String) {v w : Json} (h : v.Alike w) (hv : v.Proper)
    (hw : w.Proper) :
    (findings separator v).Alike (findings separator w) := by
  have hstrip := alike_stripPaths h hv hw
  unfold findings
  split
  · exact hstrip
  · exact alike_withSlashes hstrip none

variable {output output' : Json} {c c' : Config} {label : Label}
  {target reference target' reference' : Option ProjectMeta} {separator : String} {r r' : Report}

theorem alike_withoutPath {p p' : Option ProjectMeta}
    (h : (Identity.projectSeed p).Alike (Identity.projectSeed p')) :
    ((p.map (·.withoutPath)).map ProjectMeta.toJson).map Json.sorted
      = ((p'.map (·.withoutPath)).map ProjectMeta.toJson).map Json.sorted := by
  rcases Identity.projects_of_alike h with ⟨rfl, rfl⟩ | ⟨m, m', rfl, rfl, halike⟩
  · rfl
  · exact congrArg some halike

theorem alike_report {fields fields' : Fields} (hfields : c.toFields = .ok fields)
    (hfields' : c'.toFields = .ok fields') (hproper : fields.Proper) (hproper' : fields'.Proper)
    (hseed : Identity.SameSeed target reference target' reference' fields fields')
    (houtput : (findings separator output).Alike (findings separator output'))
    (hr : report output c label target reference separator = .ok r)
    (hr' : report output' c' label target' reference' separator = .ok r') :
    r.toWrapped.Alike r'.toWrapped := by
  obtain ⟨configuration, hconfiguration, rfl⟩ := report_eq_ok hr
  obtain ⟨configuration', hconfiguration', rfl⟩ := report_eq_ok hr'
  have hdropped : configuration = dropResult (Config.withoutPaths fields) := by
    rw [Portable.configuration, hfields, Outcome.ok_bind] at hconfiguration
    exact (Except.ok.inj hconfiguration).symm
  have hdropped' : configuration' = dropResult (Config.withoutPaths fields') := by
    rw [Portable.configuration, hfields', Outcome.ok_bind] at hconfiguration'
    exact (Except.ok.inj hconfiguration').symm
  have hkept : (Config.withoutPaths fields).Proper := hproper.filter _
  have hkept' : (Config.withoutPaths fields').Proper := hproper'.filter _
  have halike : configuration.Alike configuration' := by
    rw [hdropped, hdropped']
    exact alike_dropResult hseed.configuration
  refine Report.alike_toWrapped houtput rfl rfl rfl rfl (alike_withoutPath hseed.target)
    (alike_withoutPath hseed.reference) ?_
  simp only []
  split
  · refine (Fields.alike_iff ?_ ?_).2 halike
    · rw [hdropped]
      exact (proper_dropResult hkept).nodup
    · rw [hdropped']
      exact (proper_dropResult hkept').nodup
  · refine (Fields.alike_iff ?_ ?_).2 (alike_fieldsWithSlashes halike)
    · rw [names_fieldsWithSlashes, hdropped]
      exact (proper_dropResult hkept).nodup
    · rw [names_fieldsWithSlashes, hdropped']
      exact (proper_dropResult hkept').nodup

end Portable

namespace Commit

theorem hash?_nonempty {cs : List Char} {s : String} (h : hash? cs = some s) : s ≠ "" := by
  unfold hash? at h
  dsimp only at h
  split at h
  · rename_i hcond
    simp only [Bool.and_eq_true, decide_eq_true_eq] at hcond
    have hchars := congrArg (fun t : String => t.toList.length) (Option.some.inj h)
    simp only [String.toList_ofList, List.length_map, hcond.1.1] at hchars
    rintro rfl
    exact absurd hchars (by decide)
  · exact absurd h (by simp)

theorem resolve_nonempty {t : FileTree} {repository : Place} {depth : Nat} {name : List Char}
    {s : String} (h : resolve t repository depth name = some s) : s ≠ "" := by
  induction depth generalizing name with
  | zero => exact absurd h (by simp [resolve])
  | succ depth ih =>
      rw [resolve] at h
      split at h
      · split at h
        · exact ih h
        · exact hash?_nonempty h
      · obtain ⟨line, -, hline⟩ := Option.bind_eq_some_iff.1 h
        exact hash?_nonempty hline

theorem head?_nonempty {t : FileTree} {root : Place} {s : String} (h : head? t root = some s) :
    s ≠ "" := by
  unfold head? at h
  split at h
  · obtain ⟨place, -, hresolve⟩ := Option.bind_eq_some_iff.1 h
    exact resolve_nonempty hresolve
  · exact absurd h (by simp)

end Commit

theorem ProjectFiles.commit_of_metaAt {t : FileTree} {withCommit : Bool} {root : Place}
    {m : ProjectMeta} (h : metaAt t withCommit root = .ok m) :
    (m.commit.filter fun c => !c.isEmpty).map Json.sorted = m.commit := by
  obtain ⟨manifest, -, h⟩ := Outcome.bind_eq_ok.1 h
  obtain rfl := Except.ok.inj h
  simp only [Manifest.describe]
  cases hcommit : (if withCommit then Commit.head? t root else none) with
  | none => rfl
  | some s =>
      have hhead : Commit.head? t root = some s := by
        split at hcommit
        · exact hcommit
        · exact absurd hcommit (by simp)
      have hempty : (Json.str s).isEmpty = false := by
        simp [Json.isEmpty, Commit.head?_nonempty hhead]
      simp [Option.filter, hempty, Json.sorted]

def Disk.Consistent (d : Disk) : Prop :=
  ∀ path path' m m', ProjectFiles.metaAt d.tree true (d.place path) = .ok m →
    ProjectFiles.metaAt d.tree true (d.place path') = .ok m' → m.name = m'.name →
      m.version = m'.version →
    m.commit = m'.commit → d.tree.SameBelow (d.place path) (d.place path')

theorem ProjectFiles.withoutPath_of_alike {t t' : FileTree} {root other : Place}
    {m m' : ProjectMeta} (hm : metaAt t true root = .ok m) (hm' : metaAt t' true other = .ok m')
    (h : m.withoutPath.toJson.Alike m'.withoutPath.toJson) : m'.withoutPath = m.withoutPath := by
  have hproper := proper_metaAt hm
  have hproper' := proper_metaAt hm'
  have hcommit : m.commit = m'.commit := by
    rw [← commit_of_metaAt hm, ← commit_of_metaAt hm']
    exact ProjectMeta.commit_of_alike hproper hproper' h
  simp only [ProjectMeta.withoutPath, ProjectMeta.name_of_alike hproper hproper' h,
    ProjectMeta.version_of_alike hproper hproper' h, hcommit]

theorem Disk.sameBelow_of_alike {d : Disk} (hd : d.Consistent) {path path' : String}
    {m m' : ProjectMeta} (hm : ProjectFiles.metaAt d.tree true (d.place path) = .ok m)
    (hm' : ProjectFiles.metaAt d.tree true (d.place path') = .ok m')
    (h : m.withoutPath.toJson.Alike m'.withoutPath.toJson) :
    d.tree.SameBelow (d.place path) (d.place path') := by
  obtain ⟨hname, hversion, -, hcommit⟩ :=
    ProjectMeta.mk.inj (ProjectFiles.withoutPath_of_alike hm hm' h)
  exact hd path path' m m' hm hm' hname.symm hversion.symm hcommit.symm

theorem ProjectMeta.sameName_of_alike {p p' : Option ProjectMeta} (hp : ∀ m ∈ p, m.Proper)
    (hp' : ∀ m ∈ p', m.Proper) (h : (Identity.projectSeed p).Alike (Identity.projectSeed p')) :
    SameName p p' := by
  rcases Identity.projects_of_alike h with ⟨rfl, rfl⟩ | ⟨m, m', rfl, rfl, halike⟩
  · rfl
  · have hm := hp m rfl
    have hm' := hp' m' rfl
    simp only [SameName, Option.map_some, name_of_alike hm hm' halike,
      version_of_alike hm hm' halike]

namespace Survey

section Twice

variable {d : Disk} {separator : String} {a : Analyzer SourceTree} {c c' : Config} {p p' : Prepared}
  {r r' : Report}

theorem unreserved_of_identified {w : Surroundings SourceTree} (hc : c.Unreserved)
    (hp : Identified w a c p) :
    p.config.Unreserved := by
  obtain ⟨_, _, -, -, hconfig⟩ := Config.unwound_eq hp.unwound
  rw [hconfig]
  exact hc

theorem fields_of_identified {w : Surroundings SourceTree} (hp : Identified w a c p)
    {fields : Fields} (hfields : p.config.toFields = .ok fields) :
    ∃ (gather gatherReference : Option Json) (target : Option Report) (reference : Option Json),
      p.config.gather.toJson? = .ok gather ∧ p.config.targetResult = target.map .report
      ∧ fields = p.config.build gather gatherReference (target.map Report.portable) reference := by
  obtain ⟨target, reference, -, -, hconfig⟩ := Config.unwound_eq hp.unwound
  have htarget : p.config.targetResult = target.map .report := by rw [hconfig]
  have hreference : p.config.referenceResult = reference.map .report := by rw [hconfig]
  rw [Config.toFields_of_reports htarget hreference] at hfields
  obtain ⟨gather, hgather, hfields⟩ := Outcome.bind_eq_ok.1 hfields
  obtain ⟨gatherReference, -, hfields⟩ := Outcome.bind_eq_ok.1 hfields
  exact ⟨gather, gatherReference, target, _, hgather, htarget, (Except.ok.inj hfields).symm⟩

theorem output_eq_of_files (ht : d.tree.Sound) (hd : d.Consistent) (ha : a ∈ Catalogue.all)
    {path path' : String} {m m' : ProjectMeta} {input input' : ProjectInput} {output output' : Json}
    (hmade : MadeFromFiles (d.surroundings separator) a p path m input output)
    (hmade' : MadeFromFiles (d.surroundings separator) a p' path' m' input' output')
    (htarget : (Identity.projectSeed p.target).Alike (Identity.projectSeed p'.target))
    (hscope : (scopeFor p.config).Alike (scopeFor p'.config))
    (hreference : ProjectMeta.SameName p.reference p'.reference)
    (hoptions : p.config.options.Alike p'.config.options) :
    output = output' := by
  rw [hmade.about, hmade'.about] at htarget
  have hbelow := (d.sameBelow_of_alike hd hmade.described hmade'.described htarget).copied
  have hinput : ProjectFiles.SameInput d.folderPath d.folderPath input input' :=
    ⟨d.place path, d.place path', ProjectFiles.path_of_gatherOne hmade.gathered,
      ProjectFiles.path_of_gatherOne hmade'.gathered,
      ProjectFiles.gatherOne_below d.folderPath d.folderPath ht ht hbelow
        (Path.areNames_located _ _)
        (Path.areNames_located _ _) hscope hmade.gathered hmade'.gathered⟩
  have hfound : Outcome.Agree Eq (fromFiles (d.surroundings separator) a p input).outcome
      (fromFiles (d.surroundings separator) a p' input').outcome :=
    fromFiles_below (Catalogue.respects ha) rfl hreference hoptions hinput
  rw [hmade.found, hmade'.found] at hfound
  exact hfound.rel

theorem findings_alike_of_reports (ha : a ∈ Catalogue.all) {source source' : Report}
    {items items' : List Json} {rule rule' : Report → Option ProjectMeta → Except Fault Json}
    {output output' : Json} (hmade : MadeFromReport a p source items rule output)
    (hmade' : MadeFromReport a p' source' items' rule' output') (hsource : source.Proper)
    (hsource' : source'.Proper) (hsources : source.portable.Alike source'.portable)
    (hreference : ProjectMeta.SameName p.reference p'.reference) (separator : String) :
    (Portable.findings separator output).Alike (Portable.findings separator output') := by
  have hrule := hmade'.applies
  rw [hmade.applies] at hrule
  obtain rfl := Option.some.inj hrule
  have houtputs :=
    (Catalogue.respects ha).fromReport rule hmade.applies source source' items hmade.listed
      hsource.output hsource'.output (Report.output_of_portable hsource hsource' hsources)
        _ _ hreference output output'
      hmade.found hmade'.found
  have hfinds := (Catalogue.findsProper ha).fromReport rule hmade.applies
  exact Portable.alike_findings separator houtputs (hfinds source hsource _ _ hmade.found)
    (hfinds source' hsource' _ _ hmade'.found)

theorem alike_of_sameSeed (ht : d.tree.Sound) (hd : d.Consistent) (ha : a ∈ Catalogue.all)
    (hc : c.Proper) (hc' : c'.Proper) (hu : c.Unreserved) (hu' : c'.Unreserved) (hone : OneTarget c)
    (hone' : OneTarget c') (hp : Identified (d.surroundings separator) a c p)
    (hp' : Identified (d.surroundings separator) a c' p') {fields fields' : Fields}
    (hfields : p.config.toFields = .ok fields) (hfields' : p'.config.toFields = .ok fields')
    (hseed : Identity.SameSeed p.target p.reference p'.target p'.reference fields fields')
    (hidentifier : p.identifier = p'.identifier) (hr : fresh (d.surroundings separator) a p = .ok r)
    (hr' : fresh (d.surroundings separator) a p' = .ok r') : r.toWrapped.Alike r'.toWrapped := by
  have hproper := hp.proper (d.describesProper separator) hc
  have hproper' := hp'.proper (d.describesProper separator) hc'
  obtain ⟨gather, _, target, _, hgather, htarget, hbuild⟩ := fields_of_identified hp hfields
  obtain ⟨gather', _, target', _, hgather', htarget', hbuild'⟩ := fields_of_identified hp' hfields'
  have hparts := hseed.configuration
  rw [hbuild, hbuild'] at hparts
  obtain ⟨hscopes, htargets, hoptions⟩ :=
    Config.parts_of_alike (unreserved_of_identified hu hp) (unreserved_of_identified hu' hp') hparts
  have hreference :=
    ProjectMeta.sameName_of_alike hproper.reference hproper'.reference hseed.reference
  obtain ⟨output, hreport, hmade⟩ := made_cases hp.toNamed hone (fresh_eq_ok_iff.1 hr).1
  obtain ⟨output', hreport', hmade'⟩ := made_cases hp'.toNamed hone' (fresh_eq_ok_iff.1 hr').1
  have hlabel : label a p'.identifier = label a p.identifier := by rw [hidentifier]
  rw [reportOf, hlabel] at hreport'
  -- The configuration tells whether a report was provided, so both work on the same kind of target.
  have hkind : p.config.targetResult.isSome = p'.config.targetResult.isSome := by
    rw [htarget, htarget', Option.isSome_map, Option.isSome_map]
    simpa using congrArg Option.isSome htargets
  refine Portable.alike_report hfields hfields' (Config.proper_toFields hproper.config hfields)
    (Config.proper_toFields hproper'.config hfields') hseed ?_ hreport hreport'
  rcases hmade with ⟨path, m, input, hmade⟩ | ⟨source, items, rule, hmade⟩
  · rcases hmade' with ⟨path', m', input', hmade'⟩ | ⟨source', items', rule', hmade'⟩
    · rw [output_eq_of_files ht hd ha hmade hmade' hseed.target
        (Config.scope_of_alike hgather hgather' hscopes)
        hreference hoptions]
      exact Json.Alike.refl _
    · rw [hmade.target, hmade'.target] at hkind
      exact absurd hkind (by simp)
  · rcases hmade' with ⟨path', m', input', hmade'⟩ | ⟨source', items', rule', hmade'⟩
    · rw [hmade.target, hmade'.target] at hkind
      exact absurd hkind (by simp)
    · rw [hmade.target] at htarget
      rw [hmade'.target] at htarget'
      obtain ⟨s, rfl, hs⟩ := Option.map_eq_some_iff.1 htarget.symm
      obtain ⟨s', rfl, hs'⟩ := Option.map_eq_some_iff.1 htarget'.symm
      obtain rfl := Provided.report.inj hs
      obtain rfl := Provided.report.inj hs'
      exact findings_alike_of_reports ha hmade hmade' (hproper.config.targetResult _ hmade.target)
        (hproper'.config.targetResult _ hmade'.target) (Option.some.inj htargets)
          hreference separator

end Twice

end Survey

end CodeSurvey
