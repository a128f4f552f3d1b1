import CodeSurvey.Proofs.Analysis.Resolution

namespace CodeSurvey.Imports

open CodeSurvey.Path (split join)

variable {source path name : String} {place : List String}

def IsDotted (name : String) : Prop := "..".toList <+: name.toList ∧ name ≠ ".."

def StartsDotted (place : List String) : Prop := ∃ name ∈ place.head?, IsDotted name

theorem startsDotted_cons (name : String) (rest : List String) :
    StartsDotted (name :: rest) ↔ IsDotted name := by
  simp [StartsDotted]

section Texts

theorem isRelative_iff : isRelative source = true ↔ ∃ first ∈ (split source).head?, first = "."
      ∨ first = ".." := by
  have hfirst (name : String) (hslash : '/' ∉ name.toList) :
      source = name ∨ (name.toList ++ ['/']) <+: source.toList
        ↔ (split source).head? = some name := by
    rw [← String.toList_inj, Text.prefix_iff_pieces hslash, Path.split_eq_cons_iff,
      List.head?_eq_some_iff]
  have hdot := hfirst "." (by decide)
  have hdots := hfirst ".." (by decide)
  have hshape : isRelative source = true ↔ (source = "." ∨ (".".toList ++ ['/']) <+: source.toList)
      ∨ (source = ".." ∨ ("..".toList ++ ['/']) <+: source.toList) := by
    simp only [isRelative, Bool.or_eq_true, List.isPrefixOf_iff_prefix, beq_iff_eq]
    tauto
  rw [hshape, hdot, hdots]
  constructor
  · rintro (h | h)
    · exact ⟨".", h, .inl rfl⟩
    · exact ⟨"..", h, .inr rfl⟩
  · rintro ⟨first, h, rfl | rfl⟩
    · exact .inl h
    · exact .inr h

theorem resolve_of_not_isRelative (h : isRelative source = false) (path : String) :
    resolve source path = source := by
  rw [resolve, h, if_neg Bool.false_ne_true]

theorem fromTop_of_dots (h : "..".toList <+: path.toList) : fromTop path = path := by
  obtain ⟨rest, hrest⟩ := h
  rw [fromTop, ← hrest]
  rfl

theorem isRelative_fromTop (h : ¬"..".toList <+: path.toList) :
    isRelative (fromTop path) = true := by
  have hlocal (rest : String) : isRelative ("./" ++ rest) = true := by
    rw [isRelative_iff, split_dot_slash]
    exact ⟨".", rfl, .inl rfl⟩
  unfold fromTop
  split
  · rename_i rest hpath
    exact absurd ⟨rest, hpath.symm⟩ h
  · exact hlocal _
  · exact hlocal _

theorem prefix_join (name : String) (rest : List String) :
    name.toList <+: (join (name :: rest)).toList := by
  cases rest with
  | nil => rw [Path.join_singleton]
  | cons other rest =>
      rw [← List.singleton_append, Path.join_append (by simp) (by simp), Path.join_singleton,
        String.append_assoc, String.toList_append]
      exact List.prefix_append _ _

theorem dots_prefix_join_iff (hempty : name ≠ "") (hdot : name ≠ ".") (rest : List String) :
    "..".toList <+: (join (name :: rest)).toList ↔ "..".toList <+: name.toList := by
  refine ⟨fun h => ?_, fun h => h.trans (prefix_join name rest)⟩
  rcases List.prefix_or_prefix_of_prefix h (prefix_join name rest) with hdots | hname
  · exact hdots
  · rw [← String.toList_inj.ne] at hempty hdot
    rcases List.prefix_cons_iff.1 hname with hnil | ⟨tail, htail, hprefix⟩
    · exact absurd hnil hempty
    · rcases List.prefix_cons_iff.1 hprefix with rfl | ⟨last, rfl, hlast⟩
      · exact absurd htail hdot
      · rw [List.prefix_nil.1 hlast] at htail
        rw [htail]
        exact List.prefix_rfl

end Texts

namespace Importer

variable {f g : Importer}

theorem isRelative_resolve_iff (h : isRelative source = true) (hplace : f.LeadsTo source place) :
    isRelative (resolve source f.path) = true ↔ ¬StartsDotted place := by
  have hsegments := f.proper_resolveSegments source
  rw [resolve_eq f h]
  rw [Path.leadsTo_iff.1 hplace] at hsegments ⊢
  cases place with
  | nil => exact iff_of_true (by decide) (by simp [StartsDotted])
  | cons name rest =>
      obtain ⟨hempty, hdot, -⟩ := hsegments name List.mem_cons_self
      have hnames : ∀ s ∈ name :: rest, s ≠ "" ∧ '/' ∉ s.toList := fun s hs =>
        ⟨(hsegments s hs).1, (hsegments s hs).2.2⟩
      rw [startsDotted_cons, Path.orDot, Path.isEmpty_join (List.cons_ne_nil _ _) hnames,
        if_neg Bool.false_ne_true]
      by_cases hdots : "..".toList <+: name.toList
      · rw [fromTop_of_dots ((dots_prefix_join_iff hempty hdot rest).2 hdots), isRelative_iff,
          Path.split_join_of_no_slash (List.cons_ne_nil _ _) fun s hs => (hnames s hs).2]
        have hdotted : IsDotted name ↔ name ≠ ".." := and_iff_right hdots
        simp [hdotted, hdot]
      · have hlocal := isRelative_fromTop fun hjoin =>
          hdots ((dots_prefix_join_iff hempty hdot rest).1 hjoin)
        exact iff_of_true hlocal fun hdotted => hdots hdotted.1

theorem isRelative_of_resolve (h : isRelative (resolve source f.path) = true) :
    isRelative source = true := by
  by_contra hsource
  rw [Bool.not_eq_true] at hsource
  rw [resolve_of_not_isRelative hsource, hsource] at h
  exact Bool.false_ne_true h

theorem resolve_resolve (f : Importer) (source : String) (hg : g.folders = []) :
    resolve (resolve source f.path) g.path = resolve source f.path := by
  cases h : isRelative (resolve source f.path) with
  | false => exact resolve_of_not_isRelative h g.path
  | true =>
      have hsource := isRelative_of_resolve h
      obtain ⟨place, hplace, -⟩ := Path.existsUnique_leadsTo (f.folders ++ split source)
      -- The resolved source has the segments of its place, where nothing is left to cancel.
      have hagain : g.LeadsTo (resolve source f.path) place := by
        refine ⟨?_, hplace.finished⟩
        rw [hg, List.nil_append, segments_of_resolve hsource hplace]
      exact (resolve_eq_iff h hsource hagain hplace).2 rfl

end Importer

theorem local_source_kept_apart_unless_dotted (f : Importer) (source : String) :
    (isRelative (resolve source f.path) = true ↔
      isRelative source = true ∧ ∀ place, f.LeadsTo source place → ¬StartsDotted place)
    ∧ (∀ place, isRelative source = true → f.LeadsTo source place →
      ((∃ (g : Importer) (other : String), isRelative other = false
        ∧ resolve other g.path = resolve source f.path) ↔ StartsDotted place))
    ∧ ∀ g : Importer, g.folders = [] → resolve (resolve source f.path) g.path
    = resolve source f.path := by
  refine ⟨?_, fun place h hplace => ?_, fun g => Importer.resolve_resolve f source⟩
  · constructor
    · intro h
      have hsource := Importer.isRelative_of_resolve h
      exact ⟨hsource, fun place hplace => (Importer.isRelative_resolve_iff hsource hplace).1 h⟩
    · rintro ⟨hsource, hplaces⟩
      obtain ⟨place, hplace, -⟩ := Path.existsUnique_leadsTo (f.folders ++ split source)
      exact (Importer.isRelative_resolve_iff hsource hplace).2 (hplaces place hplace)
  · have hiff := Importer.isRelative_resolve_iff h hplace
    constructor
    · rintro ⟨g, other, hother, hsame⟩
      rw [resolve_of_not_isRelative hother] at hsame
      by_contra hdotted
      rw [← hsame, hother] at hiff
      exact Bool.false_ne_true (hiff.2 hdotted)
    · intro hdotted
      have hpackage : isRelative (resolve source f.path) = false := by
        rw [← Bool.not_eq_true, hiff, not_not]
        exact hdotted
      exact ⟨f, _, hpackage, resolve_of_not_isRelative hpackage f.path⟩

section Example

theorem local_source_kept_apart_unless_dotted_of_page :
    isRelative "../lib//./x" = true ∧ page.LeadsTo "../lib//./x" ["src", "lib", "x"]
    ∧ isRelative (resolve "../lib//./x" page.path) = true
    ∧ ∀ (g : Importer) (other : String), isRelative other = false →
      resolve other g.path ≠ resolve "../lib//./x" page.path := by
  obtain ⟨hkept, hpackages, -⟩ := local_source_kept_apart_unless_dotted page "../lib//./x"
  have hlib : page.LeadsTo "../lib//./x" ["src", "lib", "x"] := Path.leadsTo_iff.2 (by decide)
  have hplain : ¬StartsDotted ["src", "lib", "x"] := by
    rw [startsDotted_cons, IsDotted]
    decide
  refine ⟨by decide, hlib, hkept.2 ⟨by decide, fun place hplace => ?_⟩,
    fun g other hother hsame => ?_⟩
  · rw [(Path.existsUnique_leadsTo _).unique hplace hlib]
    exact hplain
  · exact hplain ((hpackages _ (by decide) hlib).1 ⟨g, other, hother, hsame⟩)

def topPage : Importer where
  folders := []
  name := "a.js"
  ordinary s hs := by
    obtain rfl := List.mem_singleton.1 hs
    exact ⟨⟨by decide, by decide, by decide, by decide⟩, by decide⟩

theorem dotted_source_reads_as_package :
    isRelative "./..conf/x" = true ∧ isRelative (resolve "./..conf/x" topPage.path) = false
    ∧ isRelative "..conf/x" = false ∧ resolve "..conf/x" topPage.path
    = resolve "./..conf/x" topPage.path := by
  decide +kernel

end Example

end CodeSurvey.Imports
