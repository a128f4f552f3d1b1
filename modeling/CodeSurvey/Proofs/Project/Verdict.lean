import CodeSurvey.Project.Files
import CodeSurvey.Project.Gate
import CodeSurvey.Proofs.Json.Proper
import CodeSurvey.Proofs.Outcome

namespace CodeSurvey.Gate

def rangeOf (manifest : Fields) (name : String) : Option String :=
  (sections.findSome? fun part => (sectionOf manifest part).get? name).map Json.display

theorem lookup_addMissing (found : List (String × String)) (field : String × Json) (name : String) :
    (addMissing found field).lookup name
      = (found.lookup name).or ((Fields.get? [field] name).map Json.display) := by
  obtain ⟨key, value⟩ := field
  have hone : ([(key, value.display)] : List (String × String)).lookup name
      = (Fields.get? [(key, value)] name).map Json.display := by
    rw [Fields.get?, List.lookup_cons, List.lookup_cons]
    cases name == key with
    | true => rfl
    | false => rfl
  unfold addMissing
  split
  · rename_i range hrange
    by_cases hname : name = key
    · rw [hname, hrange, Option.some_or]
    · rw [Fields.get?_cons_of_ne _ _ hname, Fields.get?, List.lookup_nil, Option.map_none,
        Option.or_none]
  · rw [List.lookup_append, hone]

theorem lookup_foldl_addMissing (fields : Fields) (found : List (String × String)) (name : String) :
    (fields.foldl addMissing found).lookup name
      = (found.lookup name).or ((fields.get? name).map Json.display) := by
  induction fields generalizing found with
  | nil => rw [List.foldl_nil, Fields.get?, List.lookup_nil, Option.map_none, Option.or_none]
  | cons field rest ih =>
      rw [List.foldl_cons, ih, lookup_addMissing, Option.or_assoc, ← Option.map_or,
        ← Fields.get?_append, List.singleton_append]

theorem lookup_dependencies (manifest : Fields) (name : String) :
    (dependencies manifest).lookup name = rangeOf manifest name := by
  rw [dependencies, lookup_foldl_addMissing, Fields.get?_flatMap, List.lookup_nil,
    Option.none_or, rangeOf]

def verdictOn (accepts : Matcher) (target : Fields) (name version : String) : Verdict :=
  match rangeOf target name with
  | none => .noDependency
  | some range => if accepts version range then .compatible else .noMatchedVersion

section Verdicts

variable {accepts : Matcher} {reference target : Fields} {name version other : String}

theorem verdictOn_eq_noDependency_iff :
    verdictOn accepts target name version = .noDependency ↔ rangeOf target name = none := by
  unfold verdictOn
  cases rangeOf target name with
  | none => simp
  | some range => cases h : accepts version range with
    | true => simp [h]
    | false => simp [h]

theorem verdictOn_eq_iff :
    verdictOn accepts target name version = verdictOn accepts target name other
    ↔ ∀ range, rangeOf target name = some range → accepts version range = accepts other range := by
  unfold verdictOn
  cases rangeOf target name with
  | none => simp
  | some range => cases hversion : accepts version range with
    | true => cases hother : accepts other range with
      | true => simp [hversion, hother]
      | false => simp [hversion, hother]
    | false => cases hother : accepts other range with
      | true => simp [hversion, hother]
      | false => simp [hversion, hother]

def HasTextName (manifest : Fields) : Prop :=
  ∃ name, manifest.get? "name" = some (.str name)

def HasListName (manifest : Fields) : Prop :=
  (∃ items, manifest.get? "name" = some (.arr items))
    ∨ ∃ fields, manifest.get? "name" = some (.obj fields)

theorem decide_of_text (hname : reference.get? "name" = some (.str name)) :
    decide accepts reference target
    = .ok (verdictOn accepts target name ((reference.get? "version").getD (.str "")).display) := by
  simp only [decide, hname, Option.getD_some, lookup_dependencies, verdictOn]
  cases rangeOf target name with
  | none => rfl
  | some range => rfl

theorem decide_of_list (h : HasListName reference) :
    decide accepts reference target = .error .mistyped := by
  obtain ⟨items, hitems⟩ | ⟨fields, hfields⟩ := h
  · simp only [decide, hitems, Option.getD_some]
  · simp only [decide, hfields, Option.getD_some]

theorem decide_of_neither (htext : ¬HasTextName reference) (hlist : ¬HasListName reference) :
    decide accepts reference target = .ok .noDependency := by
  unfold decide
  cases hname : reference.get? "name" with
  | none => rfl
  | some v => cases v with
    | str name => exact absurd ⟨name, hname⟩ htext
    | arr items => exact absurd (.inl ⟨items, hname⟩) hlist
    | obj fields => exact absurd (.inr ⟨fields, hname⟩) hlist
    | _ => rfl

theorem decide_eq_error_iff {fault : Fault} :
    decide accepts reference target = .error fault ↔ fault = .mistyped ∧ HasListName reference := by
  by_cases hlist : HasListName reference
  · rw [decide_of_list hlist, Except.error.injEq, eq_comm, and_iff_left hlist]
  · refine iff_of_false (fun h => ?_) fun h => hlist h.2
    by_cases htext : HasTextName reference
    · obtain ⟨name, hname⟩ := htext
      exact absurd ((decide_of_text hname).symm.trans h) (by simp)
    · exact absurd ((decide_of_neither htext hlist).symm.trans h) (by simp)

end Verdicts

theorem check_eq {accepts : Matcher} {t : FileTree} {reference target : Place} {r s : Manifest}
    (hr : Manifest.read t reference = .ok r) (hs : Manifest.read t target = .ok s) :
    check accepts t reference target = decide accepts r s := by
  rw [check, hr, Outcome.ok_bind, hs, Outcome.ok_bind]

inductive DecidesAsDescribed (accepts : Matcher) (reference target : Fields) (m : ProjectMeta) :
    Prop where
  | versioned (htext : HasTextName reference) (hversion : (reference.get? "version").isSome)
  | unversioned (htext : HasTextName reference) (hversion : reference.get? "version" = none)
      (hsame : ∀ range, rangeOf target m.name = some range →
        accepts "" range = accepts "0.0.0" range)
  | unnamed (htext : ¬HasTextName reference) (hlist : ¬HasListName reference)
      (hnone : rangeOf target m.name = none)

theorem name_describe {manifest : Fields} {name : String} (root : Place) (commit : Option String)
    (hname : manifest.get? "name" = some (.str name)) :
    (Manifest.describe manifest root commit).name = name := by
  rw [Manifest.describe, hname, Option.getD_some, Json.display_str]

theorem decide_eq_verdictOn_iff (accepts : Matcher) (reference target : Fields) (root : Place)
    (commit : Option String) :
    decide accepts reference target
      = .ok (verdictOn accepts target (Manifest.describe reference root commit).name
      (Manifest.describe reference root commit).version)
    ↔ DecidesAsDescribed accepts reference target (Manifest.describe reference root commit) := by
  by_cases htext : HasTextName reference
  · obtain ⟨name, hname⟩ := htext
    have hdescribed := name_describe root commit hname
    rw [decide_of_text hname, hdescribed, Except.ok.injEq, verdictOn_eq_iff]
    cases hversion : reference.get? "version" with
    | some version =>
        exact iff_of_true (fun range _ => by rw [Manifest.describe, hversion]; rfl)
          (.versioned ⟨name, hname⟩ (by rw [hversion]; rfl))
    | none =>
        have hdefault : (Manifest.describe reference root commit).version = "0.0.0" := by
          rw [Manifest.describe, hversion, Option.getD_none, Json.display_str]
        rw [hdefault, Option.getD_none, Json.display_str]
        constructor
        · exact fun h => .unversioned ⟨name, hname⟩ hversion (hdescribed.symm ▸ h)
        · rintro (⟨-, hsome⟩ | ⟨-, -, hsame⟩ | ⟨htext, -, -⟩)
          · exact absurd (hversion ▸ hsome) (by simp)
          · exact hdescribed ▸ hsame
          · exact absurd ⟨name, hname⟩ htext
  · by_cases hlist : HasListName reference
    · refine iff_of_false (fun h => absurd ((decide_of_list hlist).symm.trans h) (by simp)) ?_
      rintro (⟨htext', -⟩ | ⟨htext', -, -⟩ | ⟨-, hlist', -⟩)
      · exact htext htext'
      · exact htext htext'
      · exact hlist' hlist
    · rw [decide_of_neither htext hlist, Except.ok.injEq, eq_comm, verdictOn_eq_noDependency_iff]
      constructor
      · exact .unnamed htext hlist
      · rintro (⟨htext', -⟩ | ⟨htext', -, -⟩ | ⟨-, -, hnone⟩)
        · exact absurd htext' htext
        · exact absurd htext' htext
        · exact hnone

theorem described_depends_of_decide {accepts : Matcher} {reference target : Fields} {root : Place}
    {commit : Option String} {verdict : Verdict} (h : decide accepts reference target = .ok verdict)
    (hverdict : verdict ≠ .noDependency) :
    ∃ range, rangeOf target (Manifest.describe reference root commit).name = some range := by
  by_cases hlist : HasListName reference
  · exact absurd ((decide_of_list hlist).symm.trans h) (by simp)
  · by_cases htext : HasTextName reference
    · obtain ⟨name, hname⟩ := htext
      obtain rfl := Except.ok.inj ((decide_of_text hname).symm.trans h)
      rw [name_describe root commit hname]
      exact Option.ne_none_iff_exists'.1 fun hnone =>
        hverdict (verdictOn_eq_noDependency_iff.2 hnone)
    · exact absurd (Except.ok.inj ((decide_of_neither htext hlist).symm.trans h)).symm hverdict

theorem check_against_description (accepts : Matcher) (t : FileTree) (withCommit : Bool)
    {reference target : Place} {r s : Manifest} (hr : Manifest.read t reference = .ok r)
    (hs : Manifest.read t target = .ok s) :
    ∃ m, ProjectFiles.metaAt t withCommit reference = .ok m
      ∧ (check accepts t reference target = .ok (verdictOn accepts s m.name m.version)
        ↔ DecidesAsDescribed accepts r s m)
      ∧ (∀ verdict, check accepts t reference target = .ok verdict → verdict ≠ .noDependency →
        ∃ range, rangeOf s m.name = some range)
      ∧ ∀ fault, check accepts t reference target = .error fault ↔ fault = .mistyped
      ∧ HasListName r := by
  rw [check_eq hr hs]
  refine ⟨_, by rw [ProjectFiles.metaAt, hr, Outcome.ok_bind, Outcome.pure_eq], ?_, ?_, ?_⟩
  · exact decide_eq_verdictOn_iff accepts r s reference _
  · exact fun verdict h hverdict => described_depends_of_decide h hverdict
  · exact fun fault => decide_eq_error_iff

section Example

def octetsOf (text : String) : List UInt8 :=
  text.toList.map fun c => UInt8.ofNat c.toNat

def unnamedLibrary : FileTree :=
  { entries := [(["app"], .folder),
      (["app", "package.json"],
        .file (octetsOf "\x7b\"name\":\"app\",\"dependencies\":\x7b\"lib\":\"^1.0.0\"\x7d\x7d")),
      (["lib"], .folder),
      (["lib", "package.json"], .file (octetsOf "\x7b\"version\":\"1.0.0\"\x7d"))] }

def libraryManifest : Manifest := [("version", .str "1.0.0")]

def appManifest :
    Manifest := [("name", .str "app"), ("dependencies", .obj [("lib", .str "^1.0.0")])]

theorem read_library : Manifest.read unnamedLibrary ["lib"] = .ok libraryManifest := rfl

theorem read_app : Manifest.read unnamedLibrary ["app"] = .ok appManifest := rfl

theorem check_against_description_of_library :
    ∃ m, ProjectFiles.metaAt unnamedLibrary true ["lib"] = .ok m
    ∧ (check Range.acceptsText unnamedLibrary ["lib"] ["app"]
        = .ok (verdictOn Range.acceptsText appManifest m.name m.version)
      ↔ DecidesAsDescribed Range.acceptsText libraryManifest appManifest m)
    ∧ (∀ verdict, check Range.acceptsText unnamedLibrary ["lib"] ["app"] = .ok verdict →
      verdict ≠ .noDependency →
      ∃ range, rangeOf appManifest m.name = some range)
    ∧ ∀ fault, check Range.acceptsText unnamedLibrary ["lib"] ["app"] = .error fault
      ↔ fault = .mistyped ∧ HasListName libraryManifest :=
  check_against_description Range.acceptsText unnamedLibrary true read_library read_app

theorem unnamed_library_is_no_dependency :
    ∃ m, ProjectFiles.metaAt unnamedLibrary true ["lib"] = .ok m
    ∧ rangeOf appManifest m.name = some "^1.0.0"
    ∧ check Range.acceptsText unnamedLibrary ["lib"] ["app"] = .ok .noDependency
    ∧ check Range.acceptsText unnamedLibrary ["lib"] ["app"]
      ≠ .ok (verdictOn Range.acceptsText appManifest m.name m.version) := by
  have hrange : rangeOf appManifest "lib" = some "^1.0.0" := rfl
  have hcheck : check Range.acceptsText unnamedLibrary ["lib"] ["app"] = .ok .noDependency := by
    rw [check_eq read_library read_app]
    rfl
  refine ⟨{ name := "lib", version := "1.0.0", path := some (.str "/lib") }, rfl, hrange, hcheck,
    fun h => ?_⟩
  rw [hcheck, Except.ok.injEq, eq_comm, verdictOn_eq_noDependency_iff, hrange] at h
  exact absurd h (by simp)

end Example

end CodeSurvey.Gate
