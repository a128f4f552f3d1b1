import CodeSurvey.Analysis.Catalogue
import CodeSurvey.Proofs.Outcome
import CodeSurvey.Run.Survey

namespace CodeSurvey

section Reader

variable {Tree : Type} {reader : SourceReader Tree} {files : List SourceFile}
  {project : ParsedProject Tree}

def parses (reader : SourceReader Tree) (text : String) : Bool :=
  match reader text with
  | .ok (some _) => true
  | _ => false

def parsedFile (reader : SourceReader Tree) (f : SourceFile) : Option (ParsedFile Tree) :=
  match reader f.text with
  | .ok (some tree) => some ⟨f.file, f.text, tree⟩
  | _ => none

def parsedProject (reader : SourceReader Tree) (files : List SourceFile) : ParsedProject Tree where
  entries := files.filterMap (parsedFile reader)
  failed := (files.filter fun f => !parses reader f.text).map (·.file)

theorem parsedFile_eq_some {f : SourceFile} {e : ParsedFile Tree}
    (h : parsedFile reader f = some e) :
    e.file = f.file ∧ e.text = f.text ∧ reader f.text = .ok (some e.tree) := by
  unfold parsedFile at h
  split at h
  · rename_i tree htree
    obtain rfl := Option.some.inj h
    exact ⟨rfl, rfl, htree⟩
  · exact absurd h (by simp)

theorem parsedProject_cons (f : SourceFile) {tree : Option Tree} (h : reader f.text = .ok tree) :
    parsedProject reader (f :: files) = match tree with
      | some tree => { parsedProject reader files with
          entries := ⟨f.file, f.text, tree⟩ :: (parsedProject reader files).entries }
      | none =>
          { parsedProject reader files with failed := f.file :: (parsedProject reader
              files).failed } := by
  cases tree <;> simp [parsedProject, parsedFile, parses, h]

theorem readFiles_eq_ok_iff : readFiles reader files = .ok project ↔
    (∀ f ∈ files, ∃ tree, reader f.text = .ok tree) ∧ project = parsedProject reader files := by
  induction files generalizing project with
  | nil =>
      rw [readFiles, Except.ok.injEq]
      exact ⟨fun h => ⟨fun f hf => absurd hf List.not_mem_nil, h.symm⟩, fun h => h.2.symm⟩
  | cons f rest ih =>
      constructor
      · intro h
        obtain ⟨tree, htree, h⟩ := Outcome.bind_eq_ok.1 h
        obtain ⟨others, hothers, h⟩ := Outcome.bind_eq_ok.1 h
        obtain ⟨hrest, rfl⟩ := ih.1 hothers
        refine ⟨List.forall_mem_cons.2 ⟨⟨tree, htree⟩, hrest⟩, ?_⟩
        rw [parsedProject_cons f htree]
        cases tree <;> exact (Except.ok.inj h).symm
      · rintro ⟨hreads, rfl⟩
        obtain ⟨⟨tree, htree⟩, hrest⟩ := List.forall_mem_cons.1 hreads
        rw [readFiles, htree, Outcome.ok_bind, ih.2 ⟨hrest, rfl⟩, Outcome.ok_bind,
          parsedProject_cons f htree]
        cases tree <;> rfl

theorem exists_of_readFiles_error {fault : Fault} (h : readFiles reader files = .error fault) :
    ∃ f ∈ files, reader f.text = .error fault := by
  induction files with
  | nil => exact absurd h (by simp [readFiles])
  | cons f rest ih =>
      cases htree : reader f.text with
      | error g =>
          rw [readFiles, htree] at h
          exact ⟨f, List.mem_cons_self, htree.trans (congrArg Except.error (Except.error.inj h))⟩
      | ok tree =>
          cases hothers : readFiles reader rest with
          | error g =>
              rw [readFiles, htree, hothers] at h
              obtain ⟨other, hother, hfault⟩ :=
                ih (hothers.trans (congrArg Except.error (Except.error.inj h)))
              exact ⟨other, List.mem_cons_of_mem _ hother, hfault⟩
          | ok others =>
              rw [readFiles, htree, hothers] at h
              cases tree <;> exact absurd h (by simp)

structure SortedByText (reader : SourceReader Tree) (files : List SourceFile)
    (project : ParsedProject Tree) : Prop where
  entries : project.entries.map (fun e => SourceFile.mk e.file e.text) = files.filter fun f =>
    parses reader f.text
  trees : ∀ e ∈ project.entries, reader e.text = .ok (some e.tree)
  failed : project.failed = (files.filter fun f => !parses reader f.text).map (·.file)

theorem sortedByText_parsedProject (reader : SourceReader Tree) (files : List SourceFile) :
    SortedByText reader files (parsedProject reader files) where
  entries := by
    have hfile (f : SourceFile) : (parsedFile reader f).map (fun e => SourceFile.mk e.file e.text)
        = if parses reader f.text then some f else none := by
      unfold parsedFile parses
      cases reader f.text with
      | error fault => rfl
      | ok tree => cases tree <;> rfl
    rw [parsedProject, List.map_filterMap, funext hfile]
    exact congrFun List.filterMap_eq_filter files
  trees e he := by
    obtain ⟨f, -, hf⟩ := List.mem_filterMap.1 he
    obtain ⟨-, htext, htree⟩ := parsedFile_eq_some hf
    rw [htext, htree]
  failed := rfl

end Reader

namespace Dialect

def known : List String := [Catalogue.outlineDialect, Catalogue.scriptDialect]

theorem readScript_total (text : String) : ∃ tree, readScript text = .ok tree := ⟨_, rfl⟩

theorem readOutline_eq_ok_iff (text : String) : (∃ tree, readOutline text = .ok tree)
      ↔ '\x00' ∉ text.toList := by
  rw [readOutline, Outline.read]
  by_cases hzero : '\x00' ∈ text.toList
  · simp [hzero]
  · simp [hzero]

theorem readOutline_error {text : String} {fault : Fault} (h : readOutline text = .error fault) :
    fault = .invalid := by
  rw [readOutline, Outline.read] at h
  split at h
  · exact (Except.error.inj h).symm
  · exact absurd h (by simp)

theorem exists_readFiles_outline_iff (files : List SourceFile) :
    (∃ project, readFiles readOutline files = .ok project)
      ↔ ∀ f ∈ files, '\x00' ∉ f.text.toList := by
  simp only [readFiles_eq_ok_iff, readOutline_eq_ok_iff, exists_and_left, exists_eq, and_true]

theorem sources_sorted_by_own_text {dialect : String} (h : dialect ∈ known) :
    ∃ reader, readerFor dialect = .ok reader ∧ ∀ files,
      ((∃ project, readFiles reader files = .ok project)
        ↔ (dialect = Catalogue.outlineDialect → ∀ f ∈ files, '\x00' ∉ f.text.toList))
      ∧ (∀ fault, readFiles reader files = .error fault → fault = .invalid)
      ∧ ∀ project, readFiles reader files = .ok project → SortedByText reader files project := by
  have hsorted {reader : SourceReader SourceTree} {files : List SourceFile}
      {project : ParsedProject SourceTree}
      (hproject : readFiles reader files = .ok project) : SortedByText reader files project := by
    obtain ⟨-, rfl⟩ := readFiles_eq_ok_iff.1 hproject
    exact sortedByText_parsedProject reader files
  simp only [known, List.mem_cons, List.not_mem_nil, or_false] at h
  rcases h with rfl | rfl
  · refine ⟨readOutline, rfl, fun files => ⟨?_, ?_, fun project => hsorted⟩⟩
    · rw [exists_readFiles_outline_iff]
      exact ⟨fun hzero _ => hzero, fun hzero => hzero rfl⟩
    · intro fault hfault
      obtain ⟨f, -, hf⟩ := exists_of_readFiles_error hfault
      exact readOutline_error hf
  · refine ⟨readScript, rfl, fun files => ⟨?_, ?_, fun project => hsorted⟩⟩
    · have hother : Catalogue.scriptDialect ≠ Catalogue.outlineDialect := by decide
      refine ⟨fun _ hsame => absurd hsame hother, fun _ => ?_⟩
      exact ⟨_, readFiles_eq_ok_iff.2 ⟨fun f _ => readScript_total f.text, rfl⟩⟩
    · intro fault hfault
      obtain ⟨f, -, hf⟩ := exists_of_readFiles_error hfault
      exact absurd hf (by simp [readScript])

section Example

def aroundBroken : List SourceFile :=
  [⟨"/app/first.py", "\"first\"\n"⟩, ⟨"/app/broken.py", "(1\n"⟩, ⟨"/app/second.py", "2\n"⟩]

theorem parses_aroundBroken :
    aroundBroken.map (fun f => parses readOutline f.text) = [true, false, true] := by
  decide +kernel

theorem sources_sorted_by_own_text_outlines : Catalogue.outlineDialect ∈ known
    ∧ ∃ reader project, readerFor Catalogue.outlineDialect = .ok reader
    ∧ readFiles reader aroundBroken = .ok project
      ∧ project.entries.map (·.file) = ["/app/first.py", "/app/second.py"]
      ∧ project.failed = ["/app/broken.py"] := by
  have hknown : Catalogue.outlineDialect ∈ known := List.mem_cons_self
  obtain ⟨reader, hreader, hfiles⟩ := sources_sorted_by_own_text hknown
  obtain rfl : readOutline = reader := Except.ok.inj hreader
  obtain ⟨htotal, -, hsorted⟩ := hfiles aroundBroken
  obtain ⟨project, hproject⟩ := htotal.2 fun _ => by decide +kernel
  obtain ⟨hentries, -, hfailed⟩ := hsorted project hproject
  have hparses := parses_aroundBroken
  simp only [aroundBroken, List.map_cons, List.map_nil, List.cons.injEq, and_true] at hparses
  obtain ⟨hfirst, hbroken, hsecond⟩ := hparses
  have hentries := congrArg (List.map SourceFile.file) hentries
  simp only [aroundBroken, List.filter_cons, List.filter_nil, hfirst, hbroken, hsecond,
    List.map_map] at hentries hfailed
  exact ⟨hknown, readOutline, project, hreader, hproject, hentries, hfailed⟩

def withZero : List SourceFile := [⟨"/app/a.py", "x = 1\x00"⟩, ⟨"/app/b.py", "x = 1"⟩]

theorem zero_character_ends_reading :
    ¬∀ files, ∃ project, readFiles readOutline files = .ok project := by
  intro h
  have hzero := (exists_readFiles_outline_iff withZero).1 (h withZero)
    ⟨"/app/a.py", "x = 1\x00"⟩ List.mem_cons_self
  exact hzero (by decide +kernel)

end Example

end Dialect

end CodeSurvey
