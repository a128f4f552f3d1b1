import CodeSurvey.Proofs.Run.Naming
import CodeSurvey.Proofs.Run.Relocation

namespace CodeSurvey

open Outcome (Agree)

namespace Survey

section Files

variable {Tree : Type} {w : Surroundings Tree} {a : Analyzer Tree} {c : Config} {p : Prepared}

inductive Describes (w : Surroundings Tree) : Option String → Option ProjectMeta → Prop where
  | absent {path : Option String} (h : Config.given path = none) : Describes w path none
  | project {path : String} {m : ProjectMeta} (hgiven : Config.given (some path) = some path)
      (hm : w.describe path = .ok m) : Describes w (some path) (some m)

theorem describes_given {path : Option String} {site : String} {m : ProjectMeta}
    (hgiven : Config.given path = some site) (hm : w.describe site = .ok m) :
    Describes w path (some m) := by
  obtain ⟨rfl, -⟩ := Option.filter_eq_some_iff.1 hgiven
  exact .project hgiven hm

theorem describes_target (hp : Identified w a c p) (hresult : p.config.targetResult = none) :
    Describes w p.config.targetPath p.target := by
  have hmeta := hp.target
  cases hgiven : Config.given p.config.targetPath with
  | none =>
      obtain ⟨r, hr⟩ := exists_reusable hp.validated hgiven
      obtain ⟨_, _, _, hsome, -⟩ := reusable_eq_some hr
      exact absurd (hresult.symm.trans hsome) nofun
  | some path =>
      obtain ⟨hpath, -⟩ := Option.filter_eq_some_iff.1 hgiven
      rw [targetMeta, hresult, hpath] at hmeta
      obtain ⟨m, hm, habout⟩ := Outcome.map_eq_ok.1 hmeta
      rw [← habout]
      exact describes_given hgiven hm

theorem describes_reference (hp : Identified w a c p) (hresult : p.config.referenceResult = none) :
    Describes w p.config.referencePath p.reference := by
  have hmeta := hp.reference
  rw [referenceMeta, hresult] at hmeta
  cases hgiven : Config.given p.config.referencePath with
  | none =>
      rw [hgiven] at hmeta
      rw [← Except.ok.inj hmeta]
      exact .absent hgiven
  | some path =>
      rw [hgiven] at hmeta
      obtain ⟨m, hm, habout⟩ := Outcome.map_eq_ok.1 hmeta
      rw [← habout]
      exact describes_given hgiven hm

end Files

section OneDisk

variable {d : Disk} {separator : String} {a : Analyzer SourceTree} {c c' : Config} {p q : Prepared}

structure OneProject (d : Disk) (separator : String) (path path' : Option String)
    (about about' : Option ProjectMeta) :
    Prop where
  sites : SameSites (d.surroundings separator) (d.surroundings separator) path path'
  about : about'.map (·.withoutPath) = about.map (·.withoutPath)
  manifests : ∀ site site', Config.given path = some site → Config.given path' = some site' →
    Agree Eq (Manifest.read d.tree (d.place site)) (Manifest.read d.tree (d.place site'))

theorem oneProject_of_same (ht : d.tree.Sound) (hd : d.Consistent) {path path' : Option String}
    {about about' : Option ProjectMeta} (h : Describes (d.surroundings separator) path about)
    (h' : Describes (d.surroundings separator) path' about')
    (hsame : Option.Rel ProjectMeta.Same about about') :
    OneProject d separator path path' about about' := by
  cases h with
  | absent hnone =>
      cases h' with
      | absent hnone' =>
          exact ⟨.absent hnone hnone', rfl, fun _ _ hgiven =>
            absurd (hnone.symm.trans hgiven) nofun⟩
      | project => cases hsame
  | @project path m hgiven hm =>
      cases h' with
      | absent => cases hsame
      | @project path' m' hgiven' hm' =>
          rw [Option.rel_some_some] at hsame
          have halike :=
            (ProjectMeta.alike_iff_same (ProjectFiles.proper_metaAt hm)
              (ProjectFiles.proper_metaAt hm')).2 hsame
          have hcopied := (d.sameBelow_of_alike hd hm hm' halike).copied
          have habout := ProjectFiles.withoutPath_of_alike hm hm' halike
          have hdescribed : Agree (fun m m' => m'.withoutPath = m.withoutPath)
              ((d.surroundings separator).describe path)
                ((d.surroundings separator).describe path') := by
            rw [hm, hm']
            exact .ok habout
          refine ⟨.same ⟨hgiven, hgiven', hdescribed, fun scope => ?_⟩, congrArg some habout,
            fun site site' hs hs' => ?_⟩
          · exact ProjectFiles.gatherOne_agree d.folderPath d.folderPath ht ht hcopied hdescribed
              (Path.areNames_located _ _) (Path.areNames_located _ _) scope
          · obtain rfl := Option.some.inj (hgiven.symm.trans hs)
            obtain rfl := Option.some.inj (hgiven'.symm.trans hs')
            exact Manifest.read_below hcopied (ProjectFiles.reaches_of_metaAt hm)
              (ProjectFiles.reaches_of_metaAt hm')

structure SameSettings (c c' : Config) : Prop where
  config : ∃ targetPath referencePath, c' = { c with targetPath, referencePath }
  target : c.targetResult = none
  reference : c.referenceResult = none

theorem SameSettings.unwound (h : SameSettings c c') : c.unwound = .ok c ∧ c'.unwound = .ok c' := by
  have hunwound {c : Config} (htarget : c.targetResult = none)
      (hreference : c.referenceResult = none) :
      c.unwound = .ok c := by
    obtain ⟨_, _, _, _, _, _, _, _⟩ := c
    subst htarget hreference
    rfl
  obtain ⟨_, _, rfl⟩ := h.config
  exact ⟨hunwound h.target h.reference, hunwound h.target h.reference⟩

theorem samePrepared_of_same (ht : d.tree.Sound) (hd : d.Consistent)
    (hsettings : SameSettings p.config q.config) (hp : Identified (d.surroundings separator) a c p)
    (hq : Identified (d.surroundings separator) a c' q) (hidentifier : q.identifier = p.identifier)
    (h : p.subject.Same q.subject) :
    SamePrepared (d.surroundings separator) (d.surroundings separator) p q := by
  have htarget : q.config.targetResult = none := by
    obtain ⟨_, _, hconfig⟩ := hsettings.config
    rw [hconfig]
    exact hsettings.target
  have hreference : q.config.referenceResult = none := by
    obtain ⟨_, _, hconfig⟩ := hsettings.config
    rw [hconfig]
    exact hsettings.reference
  have hone :=
    oneProject_of_same ht hd (describes_target hp hsettings.target)
      (describes_target hq htarget) h.target
  have hone' :=
    oneProject_of_same ht hd (describes_reference hp hsettings.reference)
        (describes_reference hq hreference)
      h.reference
  refine ⟨⟨hsettings.config, hone.sites, hone'.sites, ?_, rfl, rfl⟩, hidentifier, hone.about,
    hone'.about⟩
  intro reference target reference' target' hr ht hr' ht'
  refine (hone'.manifests _ _ hr hr').bind fun manifest other _ _ hsame => ?_
  refine (hone.manifests _ _ ht ht').bind fun manifest' other' _ _ hsame' => ?_
  exact .of_eq (by rw [hsame, hsame'])

end OneDisk

end Survey

end CodeSurvey
