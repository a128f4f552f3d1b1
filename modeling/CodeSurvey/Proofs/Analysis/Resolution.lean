import CodeSurvey.Analysis.Imports
import CodeSurvey.Proofs.Path.Cancel

namespace CodeSurvey.Imports

open CodeSurvey.Path (proper split join)

section Names

theorem split_dot_slash (path : String) : split ("./" ++ path) = "." :: split path := by
  have hdot : split "." = ["."] := Path.split_singleton (by decide)
  have hsplit := Path.split_append "." path
  rwa [hdot] at hsplit

theorem proper_split_dot_slash (path : String) :
    proper (split ("./" ++ path)) = proper (split path) := by
  rw [split_dot_slash]
  rfl

theorem proper_split_fromTop (path : String) :
    proper (split (fromTop path)) = proper (split path) := by
  unfold fromTop
  split
  · rfl
  · rename_i rest hpath
    have htext : "./" ++ String.ofList rest = path := by
      rw [← String.toList_inj]
      simp [hpath]
    rw [htext]
  · exact proper_split_dot_slash path

theorem head_of_isRelative {source : String} (h : isRelative source = true) :
    source.toList.head? = some '.' := by
  simp only [isRelative, Bool.or_eq_true, List.isPrefixOf_iff_prefix, beq_iff_eq] at h
  rcases h with ((⟨rest, h⟩ | ⟨rest, h⟩) | rfl) | rfl
  · rw [← h]
    rfl
  · rw [← h]
    rfl
  · rfl
  · rfl

theorem isAbsolute_of_isRelative {source : String} (h : isRelative source = true) :
    Path.isAbsolute source = false := by
  rw [Path.isAbsolute, head_of_isRelative h]
  decide

end Names

structure Importer where
  folders : List String
  name : String
  ordinary : ∀ s ∈ folders ++ [name], Path.IsName s ∧ '\\' ∉ s.toList

namespace Importer

variable {f g : Importer} {source other : String} {place place' : List String}

def path (f : Importer) : String := "./" ++ join (f.folders ++ [f.name])

def LeadsTo (f : Importer) (source : String) (place : List String) : Prop :=
  Path.LeadsTo (f.folders ++ split source) place

section Folder

theorem no_slash_name (f : Importer) : '/' ∉ f.name.toList :=
  (f.ordinary f.name (by simp)).1.no_slash

theorem folders_ordinary (f : Importer) : ∀ s ∈ "." :: f.folders, s ≠ "" ∧ '/' ∉ s.toList := by
  intro s hs
  rcases List.mem_cons.1 hs with rfl | hs
  · decide
  · have hname := (f.ordinary s (List.mem_append_left _ hs)).1
    exact ⟨hname.nonempty, hname.no_slash⟩

theorem path_eq (f : Importer) : f.path = join (("." :: f.folders) ++ [f.name]) := by
  have hjoin : join (["."] ++ (f.folders ++ [f.name]))
      = join ["."] ++ "/" ++ join (f.folders ++ [f.name]) :=
    Path.join_append (by simp) (by simp)
  rw [Path.join_singleton] at hjoin
  exact hjoin.symm

theorem withSlashes_path (f : Importer) : Path.withSlashes f.path = f.path := by
  apply Path.withSlashes_of_no_backslash
  intro h
  rw [path, String.toList_append, List.mem_append] at h
  rcases h with h | h
  · exact absurd h (by decide)
  · rcases Path.mem_join h with h | ⟨s, hs, hslash⟩
    · exact absurd h (by decide)
    · exact (f.ordinary s hs).2 hslash

theorem parent_path (f : Importer) :
    Path.parent (Path.withSlashes f.path) = join ("." :: f.folders) := by
  rw [withSlashes_path, path_eq]
  exact Path.parent_join (by simp) f.folders_ordinary f.no_slash_name

theorem head_folder (f : Importer) : ∃ rest, (join ("." :: f.folders)).toList = '.' :: rest := by
  by_cases hne : f.folders = []
  · rw [hne, Path.join_singleton]
    exact ⟨[], rfl⟩
  · rw [← List.singleton_append, Path.join_append (by simp) hne, Path.join_singleton]
    exact ⟨'/' :: (join f.folders).toList, by simp⟩

theorem split_folder (f : Importer) : split (join ("." :: f.folders)) = "." :: f.folders :=
  Path.split_join_of_no_slash (by simp) fun s hs => (f.folders_ordinary s hs).2

end Folder

theorem proper_resolveSegments (f : Importer) (source : String) :
    ∀ s ∈ Path.resolveSegments false (f.folders ++ split source), s ≠ "" ∧ s ≠ "."
      ∧ '/' ∉ s.toList := by
  intro s hs
  obtain ⟨hmem, hempty, hdot⟩ := Path.mem_proper.1 ((Path.leadsTo_resolve _).subset hs)
  refine ⟨hempty, hdot, ?_⟩
  rcases List.mem_append.1 hmem with hmem | hmem
  · exact (f.ordinary s (List.mem_append_left _ hmem)).1.no_slash
  · exact Path.no_slash_of_mem_split hmem

theorem resolve_eq (f : Importer) (h : isRelative source = true) :
    resolve source f.path
      = fromTop (Path.orDot (join (Path.resolveSegments false (f.folders ++ split source)))) := by
  have habsolute := isAbsolute_of_isRelative h
  have happend := Path.append_join (List.cons_ne_nil _ _) f.folders_ordinary habsolute
  have hsplit : split (join ("." :: f.folders) ++ "/" ++ source)
      = "." :: f.folders ++ split source := by
    rw [Path.split_append, split_folder]
  obtain ⟨rest, hrest⟩ := f.head_folder
  have htext : (join ("." :: f.folders) ++ "/" ++ source).toList
      = '.' :: (rest ++ "/".toList ++ source.toList) := by
    simp [hrest]
  have hrelative : Path.isAbsolute (join ("." :: f.folders) ++ "/" ++ source) = false := by
    rw [Path.isAbsolute, htext]
    rfl
  have hleading : Path.leading (join ("." :: f.folders) ++ "/" ++ source) = "" := by
    rw [Path.leading, htext]
    rfl
  rw [resolve, if_pos h, parent_path, happend, Path.normal, hsplit, hrelative, hleading,
    String.empty_append]
  rfl

theorem segments_of_resolve (h : isRelative source = true) (hplace : f.LeadsTo source place) :
    proper (split (resolve source f.path)) = place := by
  have hsegments := f.proper_resolveSegments source
  rw [Path.leadsTo_iff.1 hplace] at hsegments
  have hproper : proper place = place := by
    refine List.filter_eq_self.2 fun s hs => ?_
    obtain ⟨hempty, hdot, -⟩ := hsegments s hs
    simp [hempty, hdot]
  rw [resolve_eq f h, proper_split_fromTop, Path.leadsTo_iff.1 hplace]
  exact Path.proper_split_orDot_join hproper fun s hs => (hsegments s hs).2.2

theorem resolve_eq_iff (h : isRelative source = true) (h' : isRelative other = true)
    (hplace : f.LeadsTo source place) (hplace' : g.LeadsTo other place') :
    resolve source f.path = resolve other g.path ↔ place = place' := by
  constructor
  · intro heq
    rw [← segments_of_resolve h hplace, heq, segments_of_resolve h' hplace']
  · rintro rfl
    rw [resolve_eq f h, resolve_eq g h', Path.leadsTo_iff.1 hplace, Path.leadsTo_iff.1 hplace']

end Importer

theorem local_source_names_its_place :
    (∀ (f : Importer) (source : String), isRelative source = true →
      (∃! place, f.LeadsTo source place)
      ∧ ∀ place, f.LeadsTo source place → proper (split (resolve source f.path)) = place)
    ∧ (∀ (f g : Importer) (source other : String) (place place' : List String),
      isRelative source = true →
      isRelative other = true → f.LeadsTo source place → g.LeadsTo other place' →
      (resolve source f.path = resolve other g.path ↔ place = place'))
    ∧ ∀ source path : String, isRelative source = false → resolve source path = source := by
  refine ⟨fun f source h =>
    ⟨Path.existsUnique_leadsTo _, fun place => Importer.segments_of_resolve h⟩, ?_, ?_⟩
  · intro f g source other place place' h h' hplace hplace'
    exact Importer.resolve_eq_iff h h' hplace hplace'
  · intro source path h
    rw [resolve, h, if_neg Bool.false_ne_true]

section Example

def page : Importer where
  folders := ["src", "a"]
  name := "page.js"
  ordinary s hs := by
    simp only [List.cons_append, List.nil_append, List.mem_cons, List.not_mem_nil, or_false] at hs
    rcases hs with rfl | rfl | rfl
    · exact ⟨⟨by decide, by decide, by decide, by decide⟩, by decide⟩
    · exact ⟨⟨by decide, by decide, by decide, by decide⟩, by decide⟩
    · exact ⟨⟨by decide, by decide, by decide, by decide⟩, by decide⟩

theorem local_source_names_its_place_of_page :
    isRelative "../lib//./x" = true ∧ page.LeadsTo "../lib//./x" ["src", "lib", "x"]
    ∧ proper (split (resolve "../lib//./x" page.path)) = ["src", "lib", "x"]
    ∧ page.LeadsTo "../../../y" ["..", "y"]
    ∧ resolve "../lib//./x" page.path ≠ resolve "../../../y" page.path
    ∧ resolve "react" page.path = "react" := by
  obtain ⟨hplaces, hsame, hother⟩ := local_source_names_its_place
  have hlib : page.LeadsTo "../lib//./x" ["src", "lib", "x"] := Path.leadsTo_iff.2 (by decide)
  have hout : page.LeadsTo "../../../y" ["..", "y"] := Path.leadsTo_iff.2 (by decide)
  refine ⟨by decide, hlib, (hplaces page _ (by decide)).2 _ hlib, hout, ?_, hother _ _ (by decide)⟩
  intro h
  exact absurd ((hsame page page _ _ _ _ (by decide) (by decide) hlib hout).1 h) (by decide)

end Example

end CodeSurvey.Imports
