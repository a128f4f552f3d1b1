import CodeSurvey.Proofs.Json.Alike
import CodeSurvey.Proofs.Json.Reading
import CodeSurvey.Proofs.Project.Verdict

namespace CodeSurvey

theorem Manifest.proper_read {t : FileTree} {root : Place} {m : Manifest}
    (h : Manifest.read t root = .ok m) :
    Fields.Proper m := by
  unfold Manifest.read at h
  dsimp only at h
  split at h
  · exact absurd h nofun
  · exact absurd h nofun
  · split at h
    · exact absurd h nofun
    · unfold Manifest.parse at h
      split at h
      · rename_i fields hfields
        exact Except.ok.inj h ▸ Json.proper_readChars hfields
      · exact absurd h nofun
      · exact absurd h nofun
      · exact absurd h nofun
      · exact absurd h nofun

namespace Gate

variable {reference reference' target target' : Fields} {name part text : String} {range : Json}

section Sections

def Declares (manifest : Fields) (part name : String) (range : Json) : Prop :=
  ∃ fields : Fields, manifest.get? part = some (.obj fields) ∧ fields.get? name = some range

def FirstDeclares (manifest : Fields) (name : String) (range : Json) : Prop :=
  ∃ before part after, sections = before ++ part :: after ∧ Declares manifest part name range
    ∧ ∀ earlier ∈ before, ∀ other, ¬Declares manifest earlier name other

theorem get?_sectionOf : (sectionOf target part).get? name = some range
      ↔ Declares target part name range := by
  unfold sectionOf Declares
  split
  · rename_i fields hfields
    rw [hfields]
    constructor
    · exact fun h => ⟨fields, rfl, h⟩
    · rintro ⟨others, hothers, h⟩
      obtain rfl := Json.obj.inj (Option.some.inj hothers)
      exact h
  · rename_i hobject
    refine iff_of_false (by simp [Fields.get?]) ?_
    rintro ⟨fields, hfields, -⟩
    exact hobject fields hfields

theorem get?_sectionOf_eq_none : (sectionOf target part).get? name = none
      ↔ ∀ range, ¬Declares target part name range := by
  rw [Option.eq_none_iff_forall_ne_some]
  exact forall_congr' fun range => not_congr get?_sectionOf

theorem rangeOf_eq_none_iff : rangeOf target name = none
      ↔ ∀ part ∈ sections, ∀ range, ¬Declares target part name range := by
  rw [rangeOf, Option.map_eq_none_iff, List.findSome?_eq_none_iff]
  exact forall₂_congr fun part _ => get?_sectionOf_eq_none

theorem rangeOf_eq_some_iff : rangeOf target name = some text
      ↔ ∃ range, FirstDeclares target name range ∧ range.display = text := by
  rw [rangeOf, Option.map_eq_some_iff]
  refine exists_congr fun range => and_congr_left fun _ => ?_
  rw [List.findSome?_eq_some_iff]
  simp only [FirstDeclares, get?_sectionOf, get?_sectionOf_eq_none]

theorem sectionOf_congr
    (h : ∀ range, Declares target part name range ↔ Declares target' part name range) :
    (sectionOf target part).get? name = (sectionOf target' part).get? name := by
  refine Option.ext fun range => ?_
  rw [get?_sectionOf, get?_sectionOf, h]

theorem rangeOf_congr (h : ∀ part ∈ sections, ∀ range, Declares target part name range
      ↔ Declares target' part name range) :
    rangeOf target name = rangeOf target' name := by
  rw [rangeOf, rangeOf, ← List.head?_filterMap, ← List.head?_filterMap,
    List.filterMap_congr fun part hpart => sectionOf_congr (h part hpart)]

end Sections

def judged (matcher : String → String → Option Bool) :
    Matcher := fun version range => (matcher version range).getD false

theorem judged_iff {matcher : String → String → Option Bool} {version range : String} :
    judged matcher version range = true ↔ matcher version range = some true := by
  rw [judged]
  cases matcher version range with
  | none => simp
  | some accepted => simp

def versionText (manifest : Fields) : String := ((manifest.get? "version").getD (.str "")).display

section Questions

structure SameQuestion (reference target reference' target' : Fields) : Prop where
  name : reference.get? "name" = reference'.get? "name"
  version : reference.get? "version" = reference'.get? "version"
  ranges : ∀ name, reference.get? "name" = some (.str name) → ∀ part ∈ sections, ∀ range,
    Declares target part name range ↔ Declares target' part name range

theorem decide_congr (accepts : Matcher) (h : SameQuestion reference target reference' target') :
    decide accepts reference target = decide accepts reference' target' := by
  by_cases htext : HasTextName reference
  · obtain ⟨name, hname⟩ := htext
    have hname' := h.name.symm.trans hname
    rw [decide_of_text hname, decide_of_text hname', ← h.version, verdictOn, verdictOn,
      rangeOf_congr (h.ranges name hname)]
  · have htext' : ¬HasTextName reference' := by rwa [HasTextName, ← h.name]
    by_cases hlist : HasListName reference
    · have hlist' : HasListName reference' := by rwa [HasListName, ← h.name]
      rw [decide_of_list hlist, decide_of_list hlist']
    · have hlist' : ¬HasListName reference' := by rwa [HasListName, ← h.name]
      rw [decide_of_neither htext hlist, decide_of_neither htext' hlist']

end Questions

section Order

inductive SameButOrder : Json → Json → Prop where
  | same (v : Json) : SameButOrder v v
  | fields {f g : Fields} (h : f.Perm g) : SameButOrder (.obj f) (.obj g)

def Rearranged (manifest other : Fields) : Prop :=
  ∃ between : Fields, manifest.Perm between
    ∧ List.Forall₂ (fun x y => x.1 = y.1 ∧ SameButOrder x.2 y.2) between other

theorem get?_forall₂ {f g : Fields}
    (h : List.Forall₂ (fun x y => x.1 = y.1 ∧ SameButOrder x.2 y.2) f g) (name : String) :
    Option.Rel SameButOrder (f.get? name) (g.get? name) := by
  induction h with
  | nil => exact .none
  | @cons x y f g hfirst _ ih =>
      obtain ⟨n, v⟩ := x
      obtain ⟨m, w⟩ := y
      obtain ⟨rfl, hvalue⟩ := hfirst
      by_cases hn : name = n
      · rw [hn, Fields.get?_cons_self, Fields.get?_cons_self]
        exact .some hvalue
      · rw [Fields.get?_cons_of_ne _ _ hn, Fields.get?_cons_of_ne _ _ hn]
        exact ih

theorem declares_iff_of_sameButOrder {v w : Json} (hv : v.Proper) (h : SameButOrder v w) :
    (∃ fields : Fields, v = .obj fields ∧ fields.get? name = some range)
      ↔ ∃ fields : Fields, w = .obj fields ∧ fields.get? name = some range := by
  cases h with
  | same => rfl
  | fields h =>
      have hsame := Fields.get?_perm (Fields.Proper.nodup hv) h name
      simp [hsame]

theorem Rearranged.declares_iff (h : Rearranged target target') (htarget : target.Proper)
    (part name : String) (range : Json) :
    Declares target part name range ↔ Declares target' part name range := by
  obtain ⟨between, hperm, hbetween⟩ := h
  unfold Declares
  rw [Fields.get?_perm htarget.nodup hperm]
  have hrel := get?_forall₂ hbetween part
  cases hv : between.get? part with
  | none =>
      rw [hv] at hrel
      cases hw : target'.get? part with
      | none => simp
      | some w =>
          rw [hw] at hrel
          exact absurd hrel nofun
  | some v =>
      rw [hv] at hrel
      have hproper : v.Proper := by
        rw [← Fields.get?_perm htarget.nodup hperm] at hv
        exact htarget.get hv
      cases hw : target'.get? part with
      | none =>
          rw [hw] at hrel
          exact absurd hrel nofun
      | some w =>
          rw [hw] at hrel
          cases hrel with
          | some hsame =>
              simp only [Option.some.injEq]
              exact declares_iff_of_sameButOrder hproper hsame

theorem sameQuestion_of_order (hreference : reference.Proper) (htarget : target.Proper)
    (h : reference.Perm reference') (h' : Rearranged target target') :
    SameQuestion reference target reference' target' where
  name := Fields.get?_perm hreference.nodup h "name"
  version := Fields.get?_perm hreference.nodup h "version"
  ranges name _ part _ range := h'.declares_iff htarget part name range

end Order

theorem first_section_decides (matcher : String → String → Option Bool) (t : FileTree)
    {reference target : Place} {r s : Manifest} (hr : Manifest.read t reference = .ok r)
    (hs : Manifest.read t target = .ok s) (hname : ¬HasListName r) :
    (check (judged matcher) t reference target = .ok .noDependency ↔
      ∀ name, r.get? "name" = some (.str name) → ∀ part ∈ sections, ∀ range,
      ¬Declares s part name range)
    ∧ (check (judged matcher) t reference target ≠ .ok .noDependency →
      ∃ name range, r.get? "name" = some (.str name) ∧ FirstDeclares s name range
        ∧ check (judged matcher) t reference target
          = .ok (if matcher (versionText r) range.display = some true then .compatible
            else .noMatchedVersion))
    ∧ ∀ (t' : FileTree) (reference' target' : Place) (r' s' : Manifest),
    Manifest.read t' reference' = .ok r' →
      Manifest.read t' target' = .ok s' →
      SameQuestion r s r' s' ∨ (r.Perm r' ∧ Rearranged s s') →
      check (judged matcher) t' reference' target' = check (judged matcher) t reference target := by
  rw [check_eq hr hs]
  refine ⟨?_, ?_, ?_⟩
  · by_cases htext : HasTextName r
    · obtain ⟨name, hname⟩ := htext
      rw [decide_of_text hname, Except.ok.injEq, verdictOn_eq_noDependency_iff,
        rangeOf_eq_none_iff, hname]
      simp
    · rw [decide_of_neither htext hname]
      refine iff_of_true rfl fun name hname => absurd ⟨name, hname⟩ htext
  · intro hverdict
    by_cases htext : HasTextName r
    · obtain ⟨name, hname⟩ := htext
      rw [decide_of_text hname, ne_eq, Except.ok.injEq, verdictOn_eq_noDependency_iff, ← ne_eq,
        Option.ne_none_iff_exists'] at hverdict
      obtain ⟨text, htext⟩ := hverdict
      obtain ⟨range, hfirst, rfl⟩ := rangeOf_eq_some_iff.1 htext
      refine ⟨name, range, hname, hfirst, ?_⟩
      rw [decide_of_text hname, verdictOn, htext]
      exact congrArg Except.ok (if_congr judged_iff rfl rfl)
    · exact absurd (decide_of_neither htext hname) hverdict
  · intro t' reference' target' r' s' hr' hs' hsame
    rw [check_eq hr' hs']
    have hquestion : SameQuestion r s r' s' := by
      rcases hsame with hsame | ⟨hreference, htarget⟩
      · exact hsame
      · exact sameQuestion_of_order (Manifest.proper_read hr) (Manifest.proper_read hs)
          hreference htarget
    exact (decide_congr (judged matcher) hquestion).symm

section Example

def readable (version range : String) : Option Bool := some (Range.acceptsText version range)

def declaredTwice : FileTree :=
  { entries := [(["app"], .folder),
      (["app", "package.json"], .file (octetsOf
        "\x7b\"dependencies\":\x7b\"lib\":\"^2.0.0\"\x7d,\"devDependencies\":\x7b\"lib\":\"^1.0.0\",\"log\":\"*\"\x7d\x7d")),
      (["lib"], .folder),
      (["lib", "package.json"],
        .file (octetsOf "\x7b\"name\":\"lib\",\"version\":\"1.2.0\"\x7d"))] }

def declaredInOtherOrder : FileTree :=
  { entries := [(["app"], .folder),
      (["app", "package.json"], .file (octetsOf
        "\x7b\"devDependencies\":\x7b\"log\":\"*\",\"lib\":\"^1.0.0\"\x7d,\"dependencies\":\x7b\"lib\":\"^2.0.0\"\x7d\x7d")),
      (["lib"], .folder),
      (["lib", "package.json"],
        .file (octetsOf "\x7b\"version\":\"1.2.0\",\"name\":\"lib\"\x7d"))] }

def versionedLibrary : Manifest := [("name", .str "lib"), ("version", .str "1.2.0")]

def dependsTwice : Manifest := [("dependencies", .obj [("lib", .str "^2.0.0")]),
  ("devDependencies", .obj [("lib", .str "^1.0.0"), ("log", .str "*")])]

theorem rearranged_dependsTwice : Rearranged dependsTwice
    [("devDependencies", .obj [("log", .str "*"), ("lib", .str "^1.0.0")]),
     ("dependencies", .obj [("lib", .str "^2.0.0")])] := by
  refine ⟨_, .swap _ _ _, .cons ⟨rfl, .fields (.swap _ _ _)⟩ (.cons ⟨rfl, .same _⟩ .nil)⟩

theorem first_section_decides_declaredTwice :
    Manifest.read declaredTwice ["lib"] = .ok versionedLibrary
      ∧ Manifest.read declaredTwice ["app"] = .ok dependsTwice
    ∧ ¬HasListName versionedLibrary ∧ check (judged readable) declaredTwice ["lib"] ["app"]
    = .ok .compatible
    ∧ check (judged readable) declaredInOtherOrder ["lib"] ["app"] = .ok .compatible := by
  have hlibrary : Manifest.read declaredTwice ["lib"] = .ok versionedLibrary := rfl
  have hdepends : Manifest.read declaredTwice ["app"] = .ok dependsTwice := rfl
  have hname : ¬HasListName versionedLibrary := by
    rintro (⟨items, hitems⟩ | ⟨fields, hfields⟩)
    · exact absurd hitems nofun
    · exact absurd hfields nofun
  obtain ⟨hnone, hfirst, hsame⟩ :=
    first_section_decides readable declaredTwice hlibrary hdepends hname
  have hdeclares : Declares dependsTwice "devDependencies" "lib" (.str "^1.0.0") := ⟨_, rfl, rfl⟩
  obtain ⟨name, range, hlib, hrange, hverdict⟩ := hfirst fun h =>
    hnone.1 h "lib" rfl "devDependencies" List.mem_cons_self _ hdeclares
  obtain rfl : "lib" = name := Json.str.inj (Option.some.inj hlib)
  have htext : range.display = "^1.0.0" :=
    Option.some.inj ((rangeOf_eq_some_iff.2 ⟨range, hrange, rfl⟩).symm.trans
      (rfl : rangeOf dependsTwice "lib" = some "^1.0.0"))
  have haccepted : readable "1.2.0" "^1.0.0" = some true := by decide +kernel
  have hversion : versionText versionedLibrary = "1.2.0" := rfl
  rw [htext, hversion, if_pos haccepted] at hverdict
  refine ⟨hlibrary, hdepends, hname, hverdict, ?_⟩
  rw [← hverdict]
  exact hsame declaredInOtherOrder ["lib"] ["app"]
    _ _ rfl rfl (.inr ⟨.swap _ _ _, rearranged_dependsTwice⟩)

end Example

end Gate

end CodeSurvey
