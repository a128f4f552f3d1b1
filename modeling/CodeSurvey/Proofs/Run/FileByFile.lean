import CodeSurvey.Proofs.Analysis.Reading
import CodeSurvey.Proofs.Project.Discovery
import CodeSurvey.Proofs.Run.Entries
import CodeSurvey.Proofs.Run.Naming

namespace CodeSurvey

theorem ProjectFiles.readEntry_eq_some_iff {t : FileTree} {root way : Place} (hway : way ≠ [])
    (hnames : Path.AreNames way) {f : SourceFile} :
    readEntry t root (Path.join way) = some f ↔ ∃ octets cs, t.octets (root ++ way) = .ok octets
      ∧ Text.Utf8.decode octets = .ok cs
      ∧ f = ⟨"/" ++ Path.join (root ++ way), String.ofList (Text.unifyLines cs)⟩ := by
  rw [readEntry, Path.split_join hway hnames, FileTree.text]
  cases t.octets (root ++ way) with
  | error fault => simp
  | ok octets =>
      cases hdecode : Text.Utf8.decode octets with
      | error fault => simp [hdecode]
      | ok cs => simp [hdecode, eq_comm]

namespace Survey

section Rows

variable {Tree : Type} {w : Surroundings Tree} {a : Analyzer Tree} {p : Prepared}
  {reader : SourceReader Tree} {project : ProjectMeta} {root : String} {input : ProjectInput}
    {output : Json}

def rowOf (w : Surroundings Tree) (a : Analyzer Tree) (p : Prepared) (reader : SourceReader Tree)
    (project : ProjectMeta) (root : String) (f : SourceFile) : Option (String × Findings) :=
  ((parsedFile reader f).bind fun e => (findingsIn w a p project root e).toOption).filter fun row =>
    !row.2.result.isEmpty

theorem rowOf_eq_some_iff {f : SourceFile} {row : String × Findings} :
    rowOf w a p reader project root f = some row ↔
    ∃ tree, reader f.text = .ok (some tree) ∧ Path.nameFromRoot w.folder f.file root = .ok row.1
      ∧ a.inFile tree
        { text := f.text, path := row.1, project, reference := p.reference,
          options := p.config.options }
        = .ok row.2
      ∧ row.2.result ≠ [] := by
  obtain ⟨path, findings⟩ := row
  rw [rowOf, Option.filter_eq_some_iff, Option.bind_eq_some_iff]
  constructor
  · rintro ⟨⟨e, he, hrow⟩, hfound⟩
    obtain ⟨hfile, htext, htree⟩ := parsedFile_eq_some he
    obtain ⟨hpath, hrow⟩ := findingsIn_eq_ok_iff.1 (Outcome.toOption_eq_some.1 hrow)
    rw [htext] at hrow
    rw [hfile] at hpath
    exact ⟨e.tree, htree, hpath, hrow, by simpa using hfound⟩
  · rintro ⟨tree, htree, hpath, hrow, hfound⟩
    refine ⟨⟨⟨f.file, f.text, tree⟩, by rw [parsedFile, htree], ?_⟩, by simpa using hfound⟩
    exact Outcome.toOption_eq_some.2 (findingsIn_eq_ok_iff.2 ⟨hpath, hrow⟩)

theorem rows_of_fromFiles (h : (fromFiles w a p input).outcome = .ok output) :
    ∃ reader, w.readerFor a.dialect = .ok reader
      ∧ output = .arr ((input.entries.filterMap
        (rowOf w a p reader (p.target.getD input.project) (rootOf p.config input.project))).map
          fun row =>
          entryJson row.1 row.2) := by
  rw [outcome_fromFiles] at h
  obtain ⟨reader, hreader, h⟩ := Outcome.bind_eq_ok.1 h
  obtain ⟨parsed, hparsed, h⟩ := Outcome.bind_eq_ok.1 h
  obtain ⟨found, hfound, h⟩ := Outcome.bind_eq_ok.1 h
  obtain rfl := Except.ok.inj h
  obtain ⟨-, rfl⟩ := readFiles_eq_ok_iff.1 hparsed
  refine ⟨reader, hreader, ?_⟩
  have hrows : found.filter (fun row => !row.2.result.isEmpty) = input.entries.filterMap
      (rowOf w a p reader (p.target.getD input.project) (rootOf p.config input.project)) := by
    rw [← Outcome.filterMap_toOption hfound, parsedProject, List.filterMap_filterMap,
      List.filter_filterMap]
    rfl
  rw [outputOf, hrows]

end Rows

structure FoundIn (a : Analyzer SourceTree) (reference : Option ProjectMeta) (options : Fields)
    (way : Place) (octets : List UInt8) (findings : Findings) : Prop where
  analyzed : ∃ cs reader tree, Text.Utf8.decode octets = .ok cs
    ∧ Dialect.readerFor a.dialect = .ok reader
    ∧ reader (String.ofList (Text.unifyLines cs)) = .ok (some tree)
    ∧ ∀ project, a.inFile tree
      { text := String.ofList (Text.unifyLines
        cs), path := "./" ++ Path.join way, project, reference, options }
        = .ok findings
  nonempty : findings.result ≠ []

structure Reported (a : Analyzer SourceTree) (s : Scope) (reference : Option ProjectMeta)
    (options : Fields) (way : Place) (octets : List UInt8) (findings : Findings) :
    Prop extends FoundIn a reference options way octets findings where
  admitted : s.Admits (Path.join way)
  unshut : ProjectFiles.isExcluded (Path.join way) = false

theorem FoundIn.congr {a : Analyzer SourceTree} (ha : a.Respects)
    {reference reference' : Option ProjectMeta} {options options' : Fields}
    (hreference : ProjectMeta.SameName reference reference') (hoptions : options.Alike options')
    {way : Place} {octets : List UInt8} {findings : Findings} :
    FoundIn a reference options way octets findings
      ↔ FoundIn a reference' options' way octets findings := by
  have hfound (tree : SourceTree) (text : String) (project : ProjectMeta) :
      a.inFile tree { text, path := "./" ++ Path.join way, project, reference, options }
        = a.inFile tree
          { text, path := "./" ++ Path.join way, project, reference := reference', options := options' } :=
    ha.inFile tree _ _ rfl hreference hoptions
  constructor
  · rintro ⟨hanalyzed, hnonempty⟩
    simp only [hfound] at hanalyzed
    exact ⟨hanalyzed, hnonempty⟩
  · rintro ⟨hanalyzed, hnonempty⟩
    simp only [← hfound] at hanalyzed
    exact ⟨hanalyzed, hnonempty⟩

structure ListsFiles (t : FileTree) (root : Place) (a : Analyzer SourceTree) (p : Prepared)
    (output : Json) (rows : List (Place × Findings)) : Prop where
  listed : output = .arr (rows.map fun row => entryJson ("./" ++ Path.join row.1) row.2)
  increasing : (rows.map fun row => Path.join row.1).Pairwise (· < ·)
  mem_iff : ∀ way findings, (way, findings) ∈ rows ↔ ∃ octets, t.octets (root ++ way) = .ok octets
    ∧ Reported a (scopeFor p.config) p.reference p.config.options way octets findings

section Gathered

variable {d : Disk} {separator : String} {a : Analyzer SourceTree} {p : Prepared}
  {reader : SourceReader SourceTree} {project : ProjectMeta} {root way : Place}
    {input : ProjectInput} {output : Json} {findings : Findings}

def rowAt (d : Disk) (separator : String) (a : Analyzer SourceTree) (p : Prepared)
    (reader : SourceReader SourceTree) (project : ProjectMeta) (root : Place) (path : String) :
    Option (String × Findings) :=
  (ProjectFiles.readEntry d.tree root path).bind
    (rowOf (d.surroundings separator) a p reader project ("/" ++ Path.join root))

theorem rowAt_eq_some_iff (ha : a.Respects) (hreader : Dialect.readerFor a.dialect = .ok reader)
    (hroot : Path.AreNames root) (hway : way ≠ []) (hnames : Path.AreNames way) {path : String} :
    rowAt d separator a p reader project root (Path.join way) = some (path, findings) ↔
      path = "./" ++ Path.join way
      ∧ ∃ octets, d.tree.octets (root ++ way) = .ok octets
        ∧ FoundIn a p.reference p.config.options way octets findings := by
  have hpath : Path.nameFromRoot (d.surroundings separator).folder ("/" ++ Path.join (root ++ way))
      ("/" ++ Path.join root) = .ok ("./" ++ Path.join way) := by
    rw [Path.nameFromRoot_below _ hroot hnames, Path.orDot_join hway hnames]
  rw [rowAt, Option.bind_eq_some_iff]
  constructor
  · rintro ⟨f, hf, hrow⟩
    obtain ⟨octets, cs, hoctets, hcs, rfl⟩ := (ProjectFiles.readEntry_eq_some_iff hway hnames).1 hf
    obtain ⟨tree, htree, hfile, hfound, hnonempty⟩ := rowOf_eq_some_iff.1 hrow
    obtain rfl := Except.ok.inj (hfile.symm.trans hpath)
    refine ⟨rfl, octets, hoctets, ⟨cs, reader, tree, hcs, hreader, htree, fun other => ?_⟩,
      hnonempty⟩
    rw [← hfound]
    exact ha.inFile tree _ _ rfl rfl fun _ => rfl
  · rintro ⟨rfl, octets, hoctets, ⟨cs, reader', tree, hcs, hreader', htree, hfound⟩, hnonempty⟩
    obtain rfl := Except.ok.inj (hreader.symm.trans hreader')
    refine ⟨_, (ProjectFiles.readEntry_eq_some_iff hway hnames).2 ⟨octets, cs, hoctets, hcs, rfl⟩,
      ?_⟩
    exact rowOf_eq_some_iff.2 ⟨tree, htree, hpath, hfound project, hnonempty⟩

def placedRowAt (d : Disk) (separator : String) (a : Analyzer SourceTree) (p : Prepared)
    (reader : SourceReader SourceTree) (project : ProjectMeta) (root : Place) (path : String) :
    Option (Place × Findings) :=
  (rowAt d separator a p reader project root path).map fun row => (Path.split path, row.2)

theorem placedRowAt_eq_some_iff (ha : a.Respects)
    (hreader : Dialect.readerFor a.dialect = .ok reader) (hroot : Path.AreNames root)
    (hway : way ≠ []) (hnames : Path.AreNames way) {other : Place} :
    placedRowAt d separator a p reader project root (Path.join way) = some (other, findings) ↔
      other = way
      ∧ ∃ octets, d.tree.octets (root ++ way) = .ok octets
        ∧ FoundIn a p.reference p.config.options way octets findings := by
  rw [placedRowAt, Path.split_join hway hnames, Option.map_eq_some_iff]
  constructor
  · rintro ⟨⟨path, found⟩, hrow, hsame⟩
    obtain ⟨rfl, rfl⟩ := Prod.mk.inj hsame
    exact ⟨rfl, ((rowAt_eq_some_iff ha hreader hroot hway hnames).1 hrow).2⟩
  · rintro ⟨rfl, hfound⟩
    exact ⟨(_, findings), (rowAt_eq_some_iff ha hreader hroot hway hnames).2 ⟨rfl, hfound⟩, rfl⟩

theorem map_placedRowAt (ha : a.Respects) (hreader : Dialect.readerFor a.dialect = .ok reader)
    (hroot : Path.AreNames root) (hway : way ≠ []) (hnames : Path.AreNames way) :
    (placedRowAt d separator a p reader project root (Path.join way)).map
        (fun row => entryJson ("./" ++ Path.join row.1) row.2)
      = (rowAt d separator a p reader project root (Path.join way)).map fun row =>
        entryJson row.1 row.2 := by
  rw [placedRowAt, Option.map_map]
  cases hrow : rowAt d separator a p reader project root (Path.join way) with
  | none => rfl
  | some row =>
      obtain ⟨path, findings⟩ := row
      obtain ⟨rfl, -⟩ := (rowAt_eq_some_iff ha hreader hroot hway hnames).1 hrow
      rw [Path.split_join hway hnames]
      rfl

theorem exists_listsFiles (ht : d.tree.Sound) (ha : a.Respects) (hroot : Path.AreNames root)
    (hinput : ProjectFiles.gatherOne d.tree (scopeFor p.config) root = .ok input)
    (h : (fromFiles (d.surroundings separator) a p input).outcome = .ok output) :
    ∃ rows, ListsFiles d.tree root a p output rows := by
  have hrooted := rootOf_of_place (ProjectFiles.path_of_gatherOne hinput) p.config
  obtain ⟨m, hm, hinput⟩ := Outcome.bind_eq_ok.1 hinput
  obtain ⟨paths, hpaths, hinput⟩ := Outcome.bind_eq_ok.1 hinput
  obtain rfl := Except.ok.inj hinput
  obtain ⟨reader, hreader, houtput⟩ := rows_of_fromFiles h
  rw [hrooted, List.filterMap_filterMap, List.map_filterMap] at houtput
  have hways := ProjectFiles.mem_discover ht hpaths
  refine ⟨paths.filterMap (placedRowAt d separator a p reader (p.target.getD m) root), ?_, ?_, ?_⟩
  · rw [houtput, List.map_filterMap]
    refine congrArg Json.arr (List.filterMap_congr fun path hpath => ?_)
    obtain ⟨way, hway, hnames, rfl⟩ := hways path hpath
    exact (map_placedRowAt ha hreader hroot hway hnames).symm
  · rw [List.pairwise_map]
    refine (ProjectFiles.increasing_of_discover ht hpaths).filterMap
      _ fun path other hlt row hrow row' hrow' => ?_
    obtain ⟨-, -, rfl⟩ := Option.map_eq_some_iff.1 hrow
    obtain ⟨-, -, rfl⟩ := Option.map_eq_some_iff.1 hrow'
    rw [Path.join_split, Path.join_split]
    exact hlt
  · intro way findings
    rw [List.mem_filterMap]
    constructor
    · rintro ⟨path, hpath, hrow⟩
      obtain ⟨other, hother, hnames, rfl⟩ := hways path hpath
      obtain ⟨rfl, octets, hoctets, hfound⟩ :=
        (placedRowAt_eq_some_iff ha hreader hroot hother hnames).1 hrow
      obtain ⟨-, hadmitted, hunshut⟩ := (ProjectFiles.mem_discover_iff hpaths).1 hpath
      exact ⟨octets, hoctets, hfound, hadmitted, hunshut⟩
    · rintro ⟨octets, hoctets, hfound, hadmitted, hunshut⟩
      have hbelow :=
        FileTree.mem_filesBelow_of_octets ht (ProjectFiles.reaches_of_metaAt hm) hoctets
      obtain ⟨hway, hnames⟩ := FileTree.areNames_of_mem_filesBelow ht hbelow
      refine ⟨Path.join way, ?_, ?_⟩
      · exact (ProjectFiles.mem_discover_iff hpaths).2 ⟨List.mem_map_of_mem hbelow,
          hadmitted, hunshut⟩
      · exact (placedRowAt_eq_some_iff ha hreader hroot hway hnames).2
          ⟨rfl, octets, hoctets, hfound⟩

end Gathered

end Survey

namespace Session

open Survey

variable {call : Call} {store : Store} {p : Prepared} {path : String} {r : Report}

structure Call.SurveysAfresh (call : Call) (store : Store) (p : Prepared) (path : String)
    (r : Report) : Prop where
  separator : call.separator = "/"
  sound : call.disk.tree.Sound
  files : ∃ c m, call.config = .ok c ∧ OnFiles call.surroundings call.analyzer c p path m
  outcome : (call.run store).outcome = .ok r
  new : r.about.fromCache = false
  found : r.isSkipped = false

theorem Call.SurveysAfresh.listsFiles (h : call.SurveysAfresh store p path r) :
    ∃ rows, ListsFiles call.disk.tree (call.disk.place path) call.analyzer p r.output rows := by
  obtain ⟨c, m, hc, hfiles⟩ := h.files
  obtain ⟨c', q, hc', hq, -, hfresh, -⟩ := fresh_of_new h.outcome h.new h.found
  obtain rfl := Except.ok.inj (hc.symm.trans hc')
  have hidentify := identify_eq_ok_iff.2 hfiles.identified
  obtain rfl := Except.ok.inj (hidentify.symm.trans (identify_eq_ok_iff.2 hq))
  obtain ⟨hmade, -⟩ := fresh_eq_ok_iff.1 hfresh
  rw [made_of_gathered hfiles.gathered hfiles.given] at hmade
  obtain ⟨input, hinput, hmade⟩ := Outcome.bind_eq_ok.1 hmade
  obtain ⟨-, -, hmade⟩ := Outcome.bind_eq_ok.1 hmade
  obtain ⟨output, houtput, hreport⟩ := Outcome.bind_eq_ok.1 hmade
  have hsame : r.output = output := by
    have hseparator : call.surroundings.separator = "/" := h.separator
    rw [Portable.output_report hreport, hseparator]
    exact Portable.stripPaths_of_isFindings (isFindings_fromFiles houtput)
  rw [hsame]
  exact exists_listsFiles h.sound (Catalogue.respects call.registered) (Path.areNames_located _ _)
    hinput houtput

theorem files_reported_one_by_one (h : call.SurveysAfresh store p path r) :
    ∃ rows, ListsFiles call.disk.tree (call.disk.place path) call.analyzer p r.output rows
      ∧ ∀ other store' p' path' r', Call.SurveysAfresh other store' p' path' r' →
        other.analyzer = call.analyzer →
        ProjectMeta.SameName p.reference p'.reference → p.config.options.Alike p'.config.options →
        ∃ rows', ListsFiles other.disk.tree (other.disk.place path') other.analyzer p'
          r'.output rows'
          ∧ ∀ way, call.disk.tree.octets (call.disk.place path ++ way)
              = other.disk.tree.octets (other.disk.place path' ++ way) →
            ((scopeFor p.config).Admits (Path.join way)
              ↔ (scopeFor p'.config).Admits (Path.join way)) →
            ∀ findings, (way, findings) ∈ rows ↔ (way, findings) ∈ rows' := by
  obtain ⟨rows, hrows⟩ := h.listsFiles
  refine ⟨rows, hrows, fun other store' p' path' r' hother hanalyzer hreference hoptions => ?_⟩
  obtain ⟨rows', hrows'⟩ := hother.listsFiles
  refine ⟨rows', hrows', fun way hsame hadmits findings => ?_⟩
  have hfound (octets : List UInt8) :
      FoundIn call.analyzer p.reference p.config.options way octets findings ↔
      FoundIn other.analyzer p'.reference p'.config.options way octets findings := by
    rw [hanalyzer]
    exact FoundIn.congr (Catalogue.respects call.registered) hreference hoptions
  rw [hrows.mem_iff, hrows'.mem_iff, hsame]
  refine exists_congr fun octets => and_congr_right fun _ => ?_
  constructor
  · rintro ⟨hfoundIn, hadmitted, hunshut⟩
    exact ⟨(hfound octets).1 hfoundIn, hadmits.1 hadmitted, hunshut⟩
  · rintro ⟨hfoundIn, hadmitted, hunshut⟩
    exact ⟨(hfound octets).2 hfoundIn, hadmits.2 hadmitted, hunshut⟩

section Example

def grownProject : Disk :=
  { tree := { entries := smallProject.tree.entries
      ++ [(["app", "node_modules"], .folder),
        (["app", "node_modules", "dep.js"], .file (Text.Utf8.encode "import b from 'lib';"))] } }

def importsIn (d : Disk) : Call :=
  { appImports with disk := d }

theorem sound_grownProject : grownProject.tree.Sound := by
  have happ : Path.IsName "app" := ⟨by decide, by decide, by decide, by decide +kernel⟩
  have hmodules : Path.IsName "node_modules" := ⟨by decide, by decide, by decide, by decide +kernel⟩
  have hdep : Path.IsName "dep.js" := ⟨by decide, by decide, by decide, by decide +kernel⟩
  constructor
  · simp [grownProject, smallProject]
  · intro entry hentry
    rcases List.mem_append.1 hentry with hentry | hentry
    · exact sound_smallProject.names entry hentry
    · simp only [List.mem_cons, List.not_mem_nil, or_false] at hentry
      rcases hentry with rfl | rfl
      · simpa [Path.AreNames] using ⟨happ, hmodules⟩
      · simpa [Path.AreNames] using ⟨happ, hmodules, hdep⟩

theorem surveysAfresh_importsIn {d : Disk} (ht : d.tree.Sound)
    (hdescribe : (importsIn d).surroundings.describe "/app" = .ok appMeta)
    (hgather : ((importsIn d).surroundings.gather "/app" {}).isOk = true) :
    ∃ p r, (importsIn d).SurveysAfresh (.values []) p "/app" r ∧ p.config = findInApp
      ∧ p.reference = none := by
  obtain ⟨p, hp, happ⟩ := identified_in_app (a := Catalogue.findImports) rfl hdescribe
  have hpath : Config.given p.config.targetPath = some "/app" := by
    rw [happ.config]
    rfl
  obtain ⟨r, hr, hnew, hfound⟩ := findImports_new (importsIn d) "/app" rfl rfl hp happ.fits hpath
    (by rw [happ.config]; exact passes_of_no_reference rfl) (by rw [happ.config]; exact hgather)
    (by rw [happ.config]; rfl)
  have hfiles :
      OnFiles (importsIn d).surroundings Catalogue.findImports findInApp p "/app" appMeta :=
    ⟨hp, hpath, by rw [happ.config]; rfl, hdescribe⟩
  exact ⟨p, r, ⟨rfl, ht, ⟨findInApp, _, rfl, hfiles⟩, hr, hnew, hfound⟩, happ.config,
    happ.reference⟩

theorem files_reported_one_by_one_in_app : ∃ p p' r r' rows rows',
    (importsIn smallProject).SurveysAfresh (.values []) p "/app" r
    ∧ (importsIn grownProject).SurveysAfresh (.values []) p' "/app" r'
    ∧ ListsFiles smallProject.tree ["app"] Catalogue.findImports p r.output rows
    ∧ ListsFiles grownProject.tree ["app"] Catalogue.findImports p' r'.output rows'
    ∧ (∀ findings, (["node_modules", "dep.js"], findings) ∉ rows')
    ∧ ∀ findings, (["index.js"], findings) ∈ rows ↔ (["index.js"], findings) ∈ rows' := by
  obtain ⟨p, r, h, hconfig, hreference⟩ :=
    surveysAfresh_importsIn sound_smallProject (by rfl) (by decide +kernel)
  obtain ⟨p', r', h', hconfig', hreference'⟩ :=
    surveysAfresh_importsIn sound_grownProject (by rfl) (by decide +kernel)
  obtain ⟨rows, hrows, hsame⟩ := files_reported_one_by_one h
  have halike : p.config.options.Alike p'.config.options := by
    rw [hconfig, hconfig']
    exact fun _ => rfl
  obtain ⟨rows', hrows', hindex⟩ :=
    hsame _ _ _ _ _ h' rfl (by rw [hreference, hreference']; rfl) halike
  refine ⟨p, p', r, r', rows, rows', h, h', hrows, hrows', ?_,
    hindex ["index.js"] (by rfl) (by rw [hconfig, hconfig'])⟩
  intro findings hmem
  obtain ⟨octets, -, hreported⟩ := (hrows'.mem_iff _ _).1 hmem
  have hshut : ProjectFiles.isExcluded (Path.join ["node_modules", "dep.js"]) = true := by
    decide +kernel
  exact absurd (hshut.symm.trans hreported.unshut) (by simp)

end Example

end Session

end CodeSurvey
