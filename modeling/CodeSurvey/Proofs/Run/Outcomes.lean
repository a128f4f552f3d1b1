import CodeSurvey.Proofs.Run.Naming

namespace CodeSurvey

section Ways

open Survey

theorem execute_ends_in_one_way (d : Disk) (separator : String) {a : Analyzer SourceTree}
    (ha : a ∈ Catalogue.all) (store : Store) (c : Except Fault Config) :
    (∃! e,
      Ends (d.surroundings separator) a store c (execute (d.surroundings separator) a store c) e)
    ∧ ((∃ reason, LeavesOut (d.surroundings separator) a c reason)
      ↔ Ends (d.surroundings separator) a store c (execute (d.surroundings separator) a store c)
        .leftOut)
    ∧ ((∃ r, Serves (d.surroundings separator) a store c r)
      ↔ Ends (d.surroundings separator) a store c (execute (d.surroundings separator) a store c)
        .served)
    ∧ ((∃ p r s, Makes (d.surroundings separator) a store c p r ∧ store.write (key a p) r = .ok s)
      ↔ Ends (d.surroundings separator) a store c (execute (d.surroundings separator) a store c)
        .computed)
    ∧ ∀ p r f, Makes (d.surroundings separator) a store c p r → store.write (key a p) r = .error f →
      (execute (d.surroundings separator) a store c).outcome = .error f
        ∧ (execute (d.surroundings separator) a store c).store = store := by
  have hw := d.knownReasons separator
  obtain ⟨e, he⟩ := exists_ends hw (Catalogue.listsFindings ha) store c
  refine ⟨⟨e, he, fun e' he' => ?_⟩, ⟨?_, ?_⟩, ⟨?_, ?_⟩, ⟨?_, ?_⟩, ?_⟩
  · rw [← endingOf_of_ends he, ← endingOf_of_ends he']
  · rintro ⟨reason, h⟩
    exact ends_of_leavesOut hw h
  · rintro ⟨reason, r, h, -⟩
    exact ⟨reason, h⟩
  · rintro ⟨r, h⟩
    exact ends_of_serves h
  · rintro ⟨r, h, -⟩
    exact ⟨r, h⟩
  · rintro ⟨p, r, s, h, hs⟩
    exact ends_of_makes (Catalogue.listsFindings ha) h hs
  · rintro ⟨p, r, h, hs, -⟩
    exact ⟨p, r, _, h, hs⟩
  · intro p r f h hf
    exact execute_of_unwritten h hf

section Example

open Session (appImports appMeta cached_of_new exists_made_findImports findImports_mem
  findImports_new findInApp fresh_of_new identified_in_app noImports smallProject)

def appAndLib : Disk :=
  { tree := { entries := smallProject.tree.entries
      ++ [(["lib"], .folder), (["lib", "package.json"], .file [0x7b, 0x7d])] } }

def beside : Surroundings SourceTree := appAndLib.surroundings "/"

def findBesideLib : Config := { findInApp with referencePath := some "/lib" }

theorem identified_findBesideLib :
    ∃ p, Identified beside Catalogue.findImports findBesideLib p ∧ p.config = findBesideLib := by
  obtain ⟨p, hp, hconfig, -⟩ := exists_identified (d := 899) (c := findBesideLib) (w := beside)
    (a := Catalogue.findImports) (t := some appMeta)
    (r := some { name := "lib", version := "0.0.0", path := some (.str "/lib") }) rfl rfl (by rfl)
    (by rfl) rfl
    rfl rfl rfl (by decide)
  exact ⟨p, hp, hconfig⟩

-- The option stands deeper in the row than in the seed.
def findDeep : Config := { findInApp with options := [("deep", .nested 986)] }

theorem identified_findDeep :
    ∃ p, Identified beside Catalogue.findImports findDeep p ∧ p.config = findDeep := by
  have hfits :
      (Json.obj [("deep", .nested 986), ("gatherFilesConfig", ({} : Scope).toJson)]).Fits 989 :=
    Json.fits_obj.2
      (List.forall_mem_cons.2 ⟨Json.fits_nested.2 (by decide),
        List.forall_mem_cons.2 ⟨rfl, fun _ h => absurd h List.not_mem_nil⟩⟩)
  obtain ⟨p, hp, hconfig, -⟩ := exists_identified (d := 988) (c := findDeep) (w := beside)
    (a := Catalogue.findImports)
    (t := some appMeta) rfl rfl (by rfl) rfl rfl hfits rfl rfl (by decide)
  exact ⟨p, hp, hconfig⟩

theorem not_writable_findDeep {p : Prepared} {r : Report} (hp : p.config = findDeep)
    (h : made beside Catalogue.findImports p = .ok r) : r.toWrapped.checkWritable ≠ .ok () := by
  intro hwritable
  obtain ⟨p', output, hcollect, -, hreport⟩ := made_eq_ok h
  obtain ⟨files, rfl⟩ := collect_files hcollect
  obtain ⟨fields, hfields, rfl⟩ := Portable.report_eq_ok hreport
  have hconfiguration : Portable.configuration findDeep
      = .ok [("deep", .nested 986), ("gatherFilesConfig", ({} : Scope).toJson)] := rfl
  rw [hp, hconfiguration] at hfields
  obtain rfl := Except.ok.inj hfields
  have hkept := (Json.fits_obj (d := 986)).1 (Report.fits_configuration hwritable)
  exact absurd (Json.fits_nested.1 (hkept ("deep", .nested 986) List.mem_cons_self))
    (Nat.lt_irrefl _)

def surveyBeside (store : Store) (c : Config) : Run :=
  execute beside Catalogue.findImports store (.ok c)

def EndsBeside (store : Store) (c : Config) (e : Ending) : Prop :=
  Ends beside Catalogue.findImports store (.ok c) (surveyBeside store c) e

theorem gather_beside : (beside.gather "/app" {}).isOk = true := by decide +kernel

theorem findInApp_beside : ∃ p r, Identified beside Catalogue.findImports findInApp p
      ∧ Passes beside p.config
    ∧ made beside Catalogue.findImports p = .ok r ∧ r.toWrapped.checkWritable = .ok ()
    ∧ cached (surveyBeside (.values []) findInApp).store (key Catalogue.findImports p)
      = .ok (some (r.settled.mark true)) := by
  obtain ⟨p, hp, happ⟩ := identified_in_app (w := beside) (a := Catalogue.findImports) rfl (by rfl)
  obtain ⟨r, hr, hnew, hfound⟩ :=
    findImports_new { appImports with disk := appAndLib } "/app" rfl rfl hp
      happ.fits (by rw [happ.config]; rfl) (by rw [happ.config]; exact passes_of_no_reference rfl)
      (by rw [happ.config]; exact gather_beside) (by rw [happ.config]; rfl)
  obtain ⟨c, q, hc, hq, hpasses, hfresh, -⟩ := fresh_of_new hr hnew hfound
  obtain rfl := Except.ok.inj hc
  obtain ⟨hmade, hwritable⟩ := fresh_eq_ok_iff.1 hfresh
  exact ⟨q, r, hq, hpasses, hmade, hwritable, cached_of_new ⟨_, q, rfl, hq, rfl⟩ hr hnew hfound⟩

theorem execute_ends_in_one_way_beside_lib : ∃ p q r f,
    Catalogue.findImports ∈ Catalogue.all
    ∧ Identified beside Catalogue.findImports findBesideLib p
    ∧ EndsBeside ((Store.values []).put (key Catalogue.findImports p) noImports)
      findBesideLib .leftOut
    ∧ EndsBeside (.values []) findInApp .computed
    ∧ EndsBeside (surveyBeside (.values []) findInApp).store findInApp .served
    ∧ Makes beside Catalogue.findImports (.values []) (.ok findDeep) q r
    ∧ (Store.values []).write (key Catalogue.findImports q) r = .error f
    ∧ (surveyBeside (.values []) findDeep).outcome = .error f
    ∧ (surveyBeside (.values []) findDeep).store = .values [] := by
  have hways := execute_ends_in_one_way appAndLib "/" findImports_mem
  obtain ⟨p, hp, hconfig⟩ := identified_findBesideLib
  have hrefuses : Refuses beside p.config "no-dependency" := by
    rw [hconfig]
    exact ⟨"/lib", "/app", .noDependency, rfl, rfl, rfl, by rfl, rfl⟩
  obtain ⟨q, s, hq, hpasses, hmade, hwritable, hcached⟩ := findInApp_beside
  obtain ⟨row, hkeeps, -⟩ := keeps_of_cached hcached
  obtain ⟨t, ht, hdeep⟩ := identified_findDeep
  obtain ⟨input, hinput⟩ := Outcome.isOk_iff.1 gather_beside
  obtain ⟨r, hr, -⟩ := exists_made_findImports (d := appAndLib) ht.toNamed
    (by rw [hdeep]; rfl) (by rw [hdeep]; exact hinput) (by rw [hdeep]; rfl)
  have hmakes : Makes beside Catalogue.findImports (.values []) (.ok findDeep) t r :=
    ⟨⟨findDeep, rfl, ht⟩, by rw [hdeep]; exact passes_of_no_reference rfl, rfl, hr⟩
  cases hwrite : (Store.values []).write (key Catalogue.findImports t) r with
  | ok kept => exact absurd (Store.write_eq_ok_iff.1 hwrite).1 (not_writable_findDeep hdeep hr)
  | error f =>
      obtain ⟨-, -, -, -, hunwritten⟩ := hways (.values []) (.ok findDeep)
      refine ⟨p, t, r, f, findImports_mem, hp, ?_, ?_, ?_, hmakes, hwrite,
        hunwritten t r f hmakes hwrite⟩
      · exact (hways _ (.ok findBesideLib)).2.1.1 ⟨_, findBesideLib, p, rfl, hp, hrefuses⟩
      · exact (hways (.values []) (.ok findInApp)).2.2.2.1.1
          ⟨q, s, _, ⟨⟨findInApp, rfl, hq⟩, hpasses, rfl, hmade⟩,
            Store.write_eq_ok_iff.2 ⟨hwritable, rfl⟩⟩
      · exact (hways _ (.ok findInApp)).2.2.1.1 ⟨row, findInApp, q, rfl, hq, hpasses, hkeeps⟩

end Example

end Ways

namespace Session

theorem served_until_erased (store : Store) (before between : List Step) (first last : Call)
    (key : StoreKey) (r r' : Report) (hfirst : first.Derives key)
    (hr : (first.run (after store before)).outcome = .ok r) (hnew : r.about.fromCache = false)
    (hfound : r.isSkipped = false) (hkept : .erase key ∉ between) (hlast : last.Derives key)
    (hr' : (last.run (after store (before ++ .survey first :: between))).outcome = .ok r') :
    ((∃ reason, last.LeavesOut reason ∧ r'.output = .str ("[" ++ reason ++ "]"))
      ∨ r'.toWrapped = (r.mark true).toWrapped)
    ∧ QuietEvents (last.run (after store (before ++ .survey first :: between))).events
    ∧ (last.run (after store (before ++ .survey first :: between))).store
      = after store (before ++ .survey first :: between) := by
  obtain ⟨hkeepable, hholds⟩ := kept_of_new hfirst hr hnew hfound
  have hrow := holds_after hkeepable hholds hkept
  rw [← after_survey] at hrow
  obtain ⟨hanswer, hquiet, hstore⟩ := answered_of_holds hkeepable hrow hlast hr'
  refine ⟨?_, hquiet, hstore⟩
  rcases hanswer with hleaves | rfl
  · exact .inl hleaves
  · right
    rw [Report.mark_settled, Report.toWrapped_settled]

section Example

def appExports : Call :=
  { appImports with
    analyzer := Catalogue.findExports
    registered := by simp [Catalogue.all] }

theorem derives_appExports : ∃ key, appExports.Derives key := by
  obtain ⟨p, hp, -⟩ :=
    identified_in_app (w := appExports.surroundings) (a := Catalogue.findExports) rfl (by rfl)
  exact ⟨_, findInApp, p, rfl, hp, rfl⟩

theorem analyzer_of_derives {call : Call} {key : StoreKey} (h : call.Derives key) :
    key.analyzer = call.analyzer.name := by
  obtain ⟨c, p, -, -, rfl⟩ := h
  rfl

theorem key_ne_of_appExports {key other : StoreKey} (hkey : appImports.Derives key)
    (hother : appExports.Derives other) :
    key ≠ other := by
  rintro rfl
  exact absurd ((analyzer_of_derives hkey).symm.trans (analyzer_of_derives hother)) (by decide)

def between (other : StoreKey) : List Step := [.survey appExports, .erase other]

def laterStore (other : StoreKey) : Store :=
  after (.values []) ([.survey appExports] ++ .survey appImports :: between other)

theorem served_until_erased_in_app : ∃ key other r r', appImports.Derives key
      ∧ appExports.Derives other
    ∧ (appImports.run (after (.values []) [.survey appExports])).outcome = .ok r
    ∧ r.about.fromCache = false
    ∧ r.isSkipped = false ∧ .erase key ∉ between other
    ∧ (appImports.run (laterStore other)).outcome = .ok r'
    ∧ ((∃ reason, appImports.LeavesOut reason ∧ r'.output = .str ("[" ++ reason ++ "]"))
      ∨ r'.toWrapped = (r.mark true).toWrapped)
    ∧ QuietEvents (appImports.run (laterStore other)).events
    ∧ (appImports.run (laterStore other)).store = laterStore other := by
  obtain ⟨r, hr, hnew, hfound⟩ := appImports_new
  obtain ⟨key, hkey, -⟩ := again_of_new hr hnew hfound
  obtain ⟨other, hother⟩ := derives_appExports
  have hbefore : (appImports.run (after (.values []) [.survey appExports])).outcome = .ok r := by
    have hothers : ∀ k, appImports.Derives k → ∀ call ∈ [appExports],
        ¬call.Derives k := fun k hk call hcall hderives =>
      key_ne_of_appExports hk (List.mem_singleton.1 hcall ▸ hderives) rfl
    exact (outcome_after hothers (.values [])).trans hr
  have hkept : .erase key ∉ between other := by simp [between, key_ne_of_appExports hkey hother]
  have hlast := again_after hbefore hnew hfound hkey hkept
  rw [← after_survey] at hlast
  exact ⟨key, other, r, _, hkey, hother, hbefore, hnew, hfound, hkept, hlast,
    served_until_erased (.values []) [.survey appExports] (between other) appImports appImports key
      r _ hkey hbefore
      hnew hfound hkept hkey hlast⟩

end Example

end Session

end CodeSurvey
