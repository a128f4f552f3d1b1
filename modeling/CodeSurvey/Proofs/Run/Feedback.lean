import CodeSurvey.Proofs.Run.Batching
import CodeSurvey.Proofs.Run.Entries
import CodeSurvey.Proofs.Run.Retained

namespace CodeSurvey

structure Report.Released (r : Report) : Prop where
  about : r.about.Released
  output : r.output.IsFindings "/" ∨ ∃ reason, r.output = .str reason

namespace Report.Released

variable {r : Report}

theorem settled (h : r.Released) : r.settled.Released := ⟨h.about.settled, h.output⟩

theorem mark (h : r.Released) (fromCache : Bool) :
    (r.mark fromCache).Released := ⟨h.about.mark fromCache, h.output⟩

theorem isFindings (h : r.Released) {items : List Json} (hitems : r.output = .arr items) :
    r.output.IsFindings "/" := by
  rcases h.output with hfindings | ⟨reason, hreason⟩
  · exact hfindings
  · exact absurd (hitems.symm.trans hreason) nofun

end Report.Released

namespace Session

open Survey

section Provided

structure Call.FedWith (call : Call) (P : Report → Prop) : Prop where
  unreserved : ∀ c, call.config = .ok c → c.Unreserved
  target : ∀ c, call.config = .ok c → ∀ provided ∈ c.targetResult, ∃ r, P r ∧ Handed r provided
  reference : ∀ c, call.config = .ok c → ∀ provided ∈ c.referenceResult, ∃ r, P r
    ∧ Handed r provided

def Call.GivenBoth (call : Call) : Prop :=
  ∃ c, call.config = .ok c ∧ c.targetResult.isSome = true ∧ c.referenceResult.isSome = true

theorem Call.FedWith.mono {call : Call} {P Q : Report → Prop} (h : call.FedWith P)
    (hPQ : ∀ r, P r → Q r) :
    call.FedWith Q where
  unreserved := h.unreserved
  target c hc provided hp := by
    obtain ⟨r, hr, hhanded⟩ := h.target c hc provided hp
    exact ⟨r, hPQ r hr, hhanded⟩
  reference c hc provided hp := by
    obtain ⟨r, hr, hhanded⟩ := h.reference c hc provided hp
    exact ⟨r, hPQ r hr, hhanded⟩

theorem released_of_handed {r s : Report} {provided : Provided} (h : r.Released)
    (hhanded : Handed r provided) (hs : provided.unwind = .ok s) : s.Released := by
  rcases unwind_of_handed h.about.pathless.definite hhanded with hr | hr
  · obtain rfl := Except.ok.inj (hr.symm.trans hs)
    exact h
  · obtain rfl := Except.ok.inj (hr.symm.trans hs)
    exact h.settled

theorem released_of_mapM {provided : Option Provided} {r : Option Report}
    (h : provided.mapM Provided.unwind = .ok r)
    (hfed : ∀ q ∈ provided, ∃ s, s.Released ∧ Handed s q) :
    r.isSome = provided.isSome ∧ ∀ s ∈ r, s.Released := by
  cases provided with
  | none =>
      obtain rfl := Except.ok.inj h
      exact ⟨rfl, fun s hs => absurd hs (by simp)⟩
  | some q =>
      obtain ⟨s, hs, rfl⟩ := Outcome.map_eq_ok.1 (show some <$> q.unwind = .ok r from h)
      obtain ⟨given, hgiven, hhanded⟩ := hfed q rfl
      exact ⟨rfl, fun t ht => Option.some.inj ht ▸ released_of_handed hgiven hhanded hs⟩

structure Works (call : Call) (p : Prepared) (target reference : Option Report) : Prop where
  onTarget : p.config.targetResult = target.map .report
  onReference : p.config.referenceResult = reference.map .report
  released : ∀ s ∈ target, s.Released
  unreserved : p.config.Unreserved
  givenBoth : target.isSome = true → reference.isSome = true → call.GivenBoth

theorem exists_works {call : Call} {c : Config} {p : Prepared} (h : call.FedWith Report.Released)
    (hc : call.config = .ok c) (hunwound : c.unwound = .ok p.config) :
    ∃ target reference, Works call p target reference := by
  obtain ⟨target, reference, htarget, hreference, hconfig⟩ := Config.unwound_eq hunwound
  obtain ⟨hsome, hreleased⟩ := released_of_mapM htarget (h.target c hc)
  obtain ⟨hsome', -⟩ := released_of_mapM hreference (h.reference c hc)
  refine ⟨target, reference, by rw [hconfig], by rw [hconfig], hreleased, ?_,
    fun hboth hboth' => ?_⟩
  · rw [hconfig]
    exact h.unreserved c hc
  · exact ⟨c, hc, hsome ▸ hboth, hsome' ▸ hboth'⟩

end Provided

section Reports

variable {call : Call} {c : Config} {p : Prepared} {key : StoreKey} {r : Report} {store : Store}

structure Call.Issues (call : Call) (r : Report) : Prop where
  released : r.Released
  retained : ∀ w, r.about.configuration.get? "targetProjectResult" = some w → call.GivenBoth

theorem issues_of_reportOf {target reference : Option Report} (h : Works call p target reference)
    {output : Json} (houtput : output.IsFindings "/" ∨ ∃ reason, output = .str reason)
    (hr : reportOf call.surroundings call.analyzer p output = .ok r) : call.Issues r := by
  obtain ⟨habout, hretained⟩ :=
    Portable.released_report h.unreserved h.onTarget h.onReference (fun s hs =>
      (h.released s hs).about) hr
  refine ⟨⟨habout, ?_⟩, fun w hw => ?_⟩
  · rw [Portable.output_report hr]
    rcases houtput with hfindings | ⟨reason, rfl⟩
    · exact .inl (Portable.isFindings_findings _ hfindings).weaken
    · exact .inr ⟨reason, Portable.findings_str _ reason⟩
  · obtain ⟨hsome, hsome'⟩ := hretained w hw
    exact h.givenBoth hsome hsome'

theorem issues_of_leavesOut (h : call.FedWith Report.Released) {reason : String}
    (hleaves : call.LeavesOut reason) (hr : (call.run store).outcome = .ok r) : call.Issues r := by
  obtain ⟨c, p, hc, hp, hrefuses⟩ := hleaves
  obtain ⟨s, hs⟩ := report_of_named hp.toNamed (.str ("[" ++ reason ++ "]"))
  rw [Call.outcome_run hc,
    (run_of_refused (identify_eq_ok_iff.2 hp) (refusal_of_refuses hrefuses) hs).1] at hr
  obtain rfl := Except.ok.inj hr
  obtain ⟨target, reference, hworks⟩ := exists_works h hc hp.unwound
  exact issues_of_reportOf hworks (.inr ⟨_, rfl⟩) hs

structure Call.Makes (call : Call) (key : StoreKey) (r : Report) : Prop where
  computes : call.Computes key r
  issues : call.Issues r
  findings : r.output.IsFindings call.separator

theorem makes_of_computes (h : call.FedWith Report.Released) (hr : call.Computes key r) :
    call.Makes key r := by
  obtain ⟨c, p, hc, hp, -, -, hfresh⟩ := id hr
  obtain ⟨p', output, hcollect, htraverse, hreport⟩ := fresh_eq_ok hfresh
  obtain ⟨files, rfl⟩ := collect_files hcollect
  obtain ⟨target, reference, hworks⟩ := exists_works h hc hp.unwound
  have hfindings : output.IsFindings "/" := by
    refine isFindings_traverse (Catalogue.keepsEntries call.registered) (fun s hs => ?_) htraverse
    obtain ⟨provided, rule, items, hprovided, -, hunwind, hitems⟩ := reusable_eq_some hs
    obtain ⟨t, ht, rfl⟩ := Option.map_eq_some_iff.1 (hworks.onTarget.symm.trans hprovided)
    obtain rfl := Except.ok.inj hunwind
    exact (hworks.released t ht).isFindings hitems
  refine ⟨hr, issues_of_reportOf hworks (.inl hfindings) hreport, ?_⟩
  rw [Portable.output_report hreport]
  exact Portable.isFindings_findings _ hfindings

theorem Call.Computes.labelled (h : call.Computes key r) :
    r.about.analyzer = .str key.analyzer ∧ r.about.identifier = .str key.identifier := by
  obtain ⟨c, p, -, -, -, rfl, hfresh⟩ := h
  obtain ⟨p', output, hcollect, -, hreport⟩ := fresh_eq_ok hfresh
  obtain ⟨files, rfl⟩ := collect_files hcollect
  obtain ⟨fields, -, rfl⟩ := Portable.report_eq_ok hreport
  exact ⟨rfl, rfl⟩

theorem Call.Computes.new (h : call.Computes key r) : r.about.fromCache = false := by
  obtain ⟨c, p, -, -, -, -, hfresh⟩ := h
  exact fromCache_fresh hfresh

end Reports

section Sequences

variable {store : Store} {calls before : List Call} {call last : Call} {r : Report}

def storeAfter (store : Store) (calls : List Call) : Store := after store (calls.map .survey)

theorem storeAfter_concat (store : Store) (calls : List Call) (last : Call) :
    storeAfter store (calls ++ [last]) = (last.run (storeAfter store calls)).store := by
  simp only [storeAfter, after, List.map_append, List.foldl_append]
  rfl

def Gave (store : Store) (calls : List Call) (call : Call) (r : Report) : Prop :=
  ∃ before rest, calls = before ++ call :: rest
    ∧ (call.run (storeAfter store before)).outcome = .ok r

theorem split_concat {rest : List Call} (h : calls ++ [last] = before ++ call :: rest) :
    (calls = before ∧ last = call) ∨ ∃ others, calls = before ++ call :: others := by
  rcases rest.eq_nil_or_concat with rfl | ⟨others, final, rfl⟩
  · obtain ⟨hcalls, hlast⟩ := List.append_inj' h rfl
    exact .inl ⟨hcalls, List.singleton_inj.1 hlast⟩
  · rw [List.concat_eq_append, ← List.cons_append, ← List.append_assoc] at h
    exact .inr ⟨others, (List.append_inj' h rfl).1⟩

theorem gave_concat (h : Gave store (calls ++ [last]) call r) :
    Gave store calls call r
      ∨ (call = last ∧ (last.run (storeAfter store calls)).outcome = .ok r) := by
  obtain ⟨before, rest, hsplit, hr⟩ := h
  rcases split_concat hsplit with ⟨rfl, rfl⟩ | ⟨others, hcalls⟩
  · exact .inr ⟨rfl, hr⟩
  · exact .inl ⟨before, others, hcalls, hr⟩

theorem Gave.concat (h : Gave store calls call r) (last : Call) :
    Gave store (calls ++ [last]) call r := by
  obtain ⟨before, rest, rfl, hr⟩ := h
  exact ⟨before, rest ++ [last], by rw [List.append_assoc, List.cons_append], hr⟩

theorem gave_last (hr : (last.run (storeAfter store calls)).outcome = .ok r) :
    Gave store (calls ++ [last]) last r :=
  ⟨calls, [], rfl, hr⟩

inductive FedBack (store : Store) : List Call → Prop where
  | nil : FedBack store []
  | concat {calls : List Call} {last : Call} (h : FedBack store calls)
      (hlast : last.FedWith fun r => ∃ call, Gave store calls call r) :
        FedBack store (calls ++ [last])

theorem FedBack.split {rest : List Call} (h : FedBack store calls)
    (hcalls : calls = before ++ call :: rest) :
    FedBack store before ∧ call.FedWith fun r => ∃ other, Gave store before other r := by
  induction h generalizing rest with
  | nil => exact absurd hcalls (by simp)
  | concat h hlast ih =>
      rcases split_concat hcalls with ⟨rfl, rfl⟩ | ⟨others, hothers⟩
      · exact ⟨h, hlast⟩
      · exact ih hothers

structure Sealed (store : Store) (calls : List Call) : Prop where
  given : ∀ call r, Gave store calls call r → r.Released
  rows : ∀ key ∈ (storeAfter store calls).keys, ∃ call r, Gave store calls call r ∧ call.Makes key r
    ∧ (storeAfter store calls).Holds key r.toWrapped

theorem Sealed.fedWith (h : Sealed store before)
    (hfed : call.FedWith fun r => ∃ other, Gave store before other r) :
    call.FedWith Report.Released :=
  hfed.mono fun r hr => by
    obtain ⟨other, hother⟩ := hr
    exact h.given other r hother

inductive Origin (store : Store) (before : List Call) (call : Call) (r : Report) : Call → Prop where
  | new (hnew : r.about.fromCache = false) : Origin store before call r call
  | kept {origin : Call} {key : StoreKey} {s : Report} (hgave : Gave store before origin s)
      (hnew : s.about.fromCache = false) (hkey : call.Derives key)
      (hrow : (storeAfter store before).Holds key s.toWrapped)
        (hr : r.toWrapped = (s.mark true).toWrapped) :
      Origin store before call r origin

theorem released_of_sealed (h : Sealed store before)
    (hfed : call.FedWith fun r => ∃ other, Gave store before other r)
    (hr : (call.run (storeAfter store before)).outcome = .ok r) :
    r.Released ∧ ∃ origin, Origin store before call r origin
      ∧ ∀ w, r.about.configuration.get? "targetProjectResult" = some w → origin.GivenBoth := by
  have hreleased := h.fedWith hfed
  cases answers_of_ok hr with
  | leftOut hleaves _ hnew _ =>
      have hissues := issues_of_leavesOut hreleased hleaves hr
      exact ⟨hissues.released, call, .new hnew, hissues.retained⟩
  | computed hc hp hpasses _ hfresh hnew _ _ =>
      have hmakes := makes_of_computes hreleased ⟨_, _, hc, hp, hpasses, rfl, hfresh⟩
      exact ⟨hmakes.issues.released, call, .new hnew, hmakes.issues.retained⟩
  | @served row hserves _ =>
      obtain ⟨c, p, hc, hp, -, hkeeps⟩ := hserves
      obtain ⟨origin, s, hgave, hmakes, hrow⟩ := h.rows _ (mem_keys_of_keeps hkeeps)
      have hcached := cached_of_keeps hkeeps
      rw [cached_of_holds hmakes.computes.keepable hrow] at hcached
      rw [← Option.some.inj (Except.ok.inj hcached)]
      refine ⟨hmakes.issues.released.settled.mark true, origin, ?_, hmakes.issues.retained⟩
      refine .kept hgave hmakes.computes.new ⟨c, p, hc, hp, rfl⟩ hrow ?_
      rw [Report.mark_settled, Report.toWrapped_settled]

theorem sealed_concat (h : Sealed store calls)
    (hfed : last.FedWith fun r => ∃ call, Gave store calls call r) :
    Sealed store (calls ++ [last]) where
  given call r hr := by
    rcases gave_concat hr with hr | ⟨rfl, hr⟩
    · exact h.given call r hr
    · exact (released_of_sealed h hfed hr).1
  rows := by
    have hreleased := h.fedWith hfed
    rw [storeAfter_concat]
    obtain ⟨e, he⟩ := last.exists_ends (storeAfter store calls)
    have hbefore {key : StoreKey} (hkey : key ∈ (storeAfter store calls).keys) :
        ∃ call r, Gave store (calls ++ [last]) call r ∧ call.Makes key r
          ∧ (last.run (storeAfter store calls)).store.Holds key r.toWrapped := by
      obtain ⟨call, r, hgave, hmakes, hrow⟩ := h.rows key hkey
      exact ⟨call, r, hgave.concat last, hmakes, holds_run hmakes.computes.keepable hrow⟩
    by_cases hcomputed : e = .computed
    · subst hcomputed
      obtain ⟨p, r, hmakes, -, hr, -, -, hstore, hholds, -⟩ := he
      obtain ⟨c, hc, hp⟩ := hmakes.identified
      intro key hkey
      rw [hstore, Store.keys_put, List.mem_append, List.mem_singleton] at hkey
      rcases hkey with hkey | rfl
      · exact hbefore (List.mem_of_mem_filter hkey)
      · have hcomputes : last.Computes (Survey.key last.analyzer p) r :=
          ⟨c, p, hc, hp, hmakes.passes, rfl, fresh_of_computed hc hp hmakes.passes hmakes.unkept hr⟩
        exact ⟨last, r, gave_last hr, makes_of_computes hreleased hcomputes, hholds⟩
    · intro key hkey
      rw [store_of_ends he hcomputed] at hkey
      exact hbefore hkey

theorem sealed_of_fedBack (hstore : store.keys = []) (h : FedBack store calls) :
    Sealed store calls := by
  induction h with
  | nil =>
      refine ⟨fun call r hr => ?_, fun key hkey => ?_⟩
      · obtain ⟨before, rest, hsplit, -⟩ := hr
        exact absurd hsplit (by simp)
      · rw [show storeAfter store [] = store from rfl, hstore] at hkey
        exact absurd hkey List.not_mem_nil
  | concat _ hlast ih => exact sealed_concat ih hlast

end Sequences

open Report (Shareable said setting) in
theorem given_and_kept_shareable (store : Store) (hstore : store.keys = []) (calls : List Call)
    (h : FedBack store calls) :
    (∀ before call rest r, calls = before ++ call :: rest →
    (call.run (storeAfter store before)).outcome = .ok r →
      Shareable r.toPlain ∧ Shareable r.toWrapped
      ∧ ∃ origin, Origin store before call r origin
        ∧ ∀ w, setting r.toWrapped "targetProjectResult" = some w → origin.GivenBoth)
    ∧ ∀ key ∈ (storeAfter store calls).keys, ∃ v, (storeAfter store calls).Holds key v ∧ Shareable v
      ∧ said v "name" = some (.str key.analyzer) ∧ said v "identifier" = some (.str key.identifier)
      ∧ said v "__fromCache" = none
      ∧ ∃ origin r, Gave store calls origin r ∧ r.about.fromCache = false ∧ v = r.toWrapped
        ∧ (∀ w, setting v "targetProjectResult" = some w → origin.GivenBoth)
        ∧ ∃ entries, v.at? "queryOutput" = some (.arr entries)
        ∧ ∀ entry ∈ entries, entry.IsEntry origin.separator := by
  have hwrapped (r : Report) : Report.aboutOf r.toWrapped = .ok r.about.toJson := rfl
  constructor
  · intro before call rest r hcalls hr
    obtain ⟨hbefore, hfed⟩ := h.split hcalls
    obtain ⟨hreleased, origin, horigin, hretained⟩ :=
      released_of_sealed (sealed_of_fedBack hstore hbefore) hfed hr
    refine ⟨hreleased.about.shareable rfl, hreleased.about.shareable rfl, origin, horigin,
      fun w hw => ?_⟩
    rw [Report.setting_eq (hwrapped r)] at hw
    exact hretained w hw
  · intro key hkey
    obtain ⟨origin, r, hgave, hmakes, hrow⟩ := (sealed_of_fedBack hstore h).rows key hkey
    obtain ⟨hanalyzer, hidentifier⟩ := hmakes.computes.labelled
    obtain ⟨entries, hentries, hshape⟩ := hmakes.findings
    have hnew := hmakes.computes.new
    refine ⟨r.toWrapped, hrow, hmakes.issues.released.about.shareable rfl, ?_, ?_, ?_, origin, r,
      hgave, hnew, rfl, fun w hw => ?_, entries, congrArg some hentries, hshape⟩
    · rw [Report.said_eq (hwrapped r), ReportMeta.get?_name, hanalyzer]
    · rw [Report.said_eq (hwrapped r), ReportMeta.get?_identifier, hidentifier]
    · rw [Report.said_eq (hwrapped r), ReportMeta.get?_fromCache, hnew]
      rfl
    · rw [Report.setting_eq (hwrapped r)] at hw
      exact hmakes.issues.retained w hw

section Example

theorem proper_matchBetween {r : Report} (h : r.Proper) : (matchBetween r r).Proper where
  gather s hs := proper_findInApp.gather s hs
  gatherReference _ hs := absurd hs nofun
  targetResult _ hp := Option.some.inj hp ▸ h
  referenceResult _ hp := Option.some.inj hp ▸ h
  options := Fields.proper_nil

def matchedImports {r : Report} (h : r.Proper) : Call :=
  { disk := smallProject
    separator := "/"
    analyzer := Catalogue.matchImports
    config := .ok (matchBetween r r)
    registered := matchImports_mem
    proper := fun _ hc => Except.ok.inj hc ▸ proper_matchBetween h }

theorem fedBack_matchedImports {r : Report} (hr : (appImports.run (.values [])).outcome = .ok r)
    (h : r.Proper) :
    FedBack (.values []) [appImports, matchedImports h] := by
  have hfirst : FedBack (.values []) [appImports] := by
    refine .concat .nil ⟨fun c hc => ?_, fun c hc provided hp => ?_, fun c hc provided hp => ?_⟩
    · exact Except.ok.inj hc ▸ fun _ _ => rfl
    · obtain rfl := Except.ok.inj hc
      exact absurd hp nofun
    · obtain rfl := Except.ok.inj hc
      exact absurd hp nofun
  have hgave : ∃ call, Gave (.values []) [appImports] call r := ⟨appImports, [], [], rfl, hr⟩
  refine .concat hfirst ⟨fun c hc => ?_, fun c hc provided hp => ?_, fun c hc provided hp => ?_⟩
  · exact Except.ok.inj hc ▸ fun _ _ => rfl
  · obtain rfl := Except.ok.inj hc
    exact ⟨r, hgave, Option.some.inj hp ▸ .asReport⟩
  · obtain rfl := Except.ok.inj hc
    exact ⟨r, hgave, Option.some.inj hp ▸ .asReport⟩

theorem retained_of_matchBetween {p : Prepared} {r s : Report}
    (hp : Identified appImports.surroundings Catalogue.matchImports (matchBetween r r) p)
    (hs : fresh appImports.surroundings Catalogue.matchImports p = .ok s) :
    s.about.configuration.get? "targetProjectResult" = some r.portable := by
  have hconfig : matchBetween r r = p.config :=
    Except.ok.inj (show Except.ok (matchBetween r r) = _ from hp.unwound)
  obtain ⟨p', output, hcollect, -, hreport⟩ := fresh_eq_ok hs
  obtain ⟨files, rfl⟩ := collect_files hcollect
  obtain ⟨fields, hfields, rfl⟩ := Portable.report_eq_ok hreport
  rw [← hconfig] at hfields
  have hprovided : (matchBetween r r).targetResult = (some r).map .report := rfl
  obtain ⟨-, -, -, hkept⟩ :=
    Portable.get?_configuration (fun _ _ => rfl) hprovided hprovided hfields
  exact hkept

theorem matchedImports_ok {r : Report} (hr : (appImports.run (.values [])).outcome = .ok r)
    (hnew : r.about.fromCache = false) (hfound : r.isSkipped = false) (h : r.Proper) :
    ∃ s, ((matchedImports h).run (storeAfter (.values []) [appImports])).outcome = .ok s
      ∧ Report.Retains s.toWrapped r.portable := by
  obtain ⟨c, p, hc, hp, -, hfresh, hstore, -⟩ := fresh_of_new hr hnew hfound
  obtain rfl := Except.ok.inj hc
  have hlists :=
    listsImports_of_made (c := findInApp) ⟨rfl, rfl, rfl⟩ hp.toNamed (fresh_eq_ok_iff.1 hfresh).1
  obtain ⟨files, ⟨external, houtput⟩, -⟩ := outcome_of_files hlists rfl
  have hmeta : referenceMeta appImports.surroundings (matchBetween r r)
      = .ok (some appMeta.withoutPath) :=
    congrArg Except.ok (of_appImports hr hnew hfound).2
  have hmatched :=
      outcome_of_report (c := matchBetween r r) rfl rfl hlists.analyzer houtput fun m hm => by
    obtain rfl := Option.some.inj (Except.ok.inj (hmeta.symm.trans hm))
    show Imports.isRelative "app" = false
    decide +kernel
  have hsmall := small_of_appImports hr hnew hfound
  have hwrites := writes_matchBetween hsmall hsmall hmatched
  have hgathers : Gathers appImports.surroundings (matchBetween r r) :=
    ⟨⟨_, rfl⟩, ⟨_, rfl⟩, ⟨none, rfl⟩⟩
  rw [matchingOutcome_eq_ok_iff.2 ⟨some r, _, rfl, rfl, hmeta, hgathers, rfl⟩] at hmatched
  obtain ⟨s, hdrafted, -⟩ := Outcome.map_eq_ok.1 hmatched
  have hs := (fresh_of_writes hwrites).trans hdrafted
  obtain ⟨q, hq, hmade⟩ := Outcome.bind_eq_ok.1 hs
  have hunkept : (storeAfter (.values []) [appImports]).identifiers Catalogue.matchImports.name
      = [] := by
    show (appImports.run (.values [])).store.identifiers _ = []
    rw [hstore]
    rfl
  refine ⟨s, ?_, .inl ?_⟩
  · rw [Call.outcome_run rfl]
    exact (outcome_of_passes (passes_of_no_target rfl) hunkept).trans hs
  · rw [Report.setting_eq (m := s.about) rfl]
    exact retained_of_matchBetween (identify_eq_ok_iff.1 hq) hmade

theorem exists_row {first : Call} {store : Store} {r : Report}
    (hr : (first.run store).outcome = .ok r) (hnew : r.about.fromCache = false)
    (hfound : r.isSkipped = false) :
    ∃ key, first.Computes key r ∧ ∀ last, key ∈ (storeAfter store [first, last]).keys := by
  obtain ⟨c, p, hc, hp, hpasses, hfresh, -, hholds⟩ := fresh_of_new hr hnew hfound
  have hcomputes : first.Computes (Survey.key first.analyzer p) r :=
    ⟨c, p, hc, hp, hpasses, rfl, hfresh⟩
  exact ⟨_, hcomputes, fun last =>
    Store.mem_keys_of_holds (holds_run hcomputes.keepable hholds)⟩

open Report (Shareable Retains) in
theorem given_and_kept_shareable_in_app : ∃ (r s : Report) (h : r.Proper) (key : StoreKey),
    FedBack (.values []) [appImports, matchedImports h]
    ∧ ((matchedImports h).run (storeAfter (.values []) [appImports])).outcome = .ok s
    ∧ Retains s.toWrapped r.portable ∧ Shareable s.toWrapped
    ∧ key ∈ (storeAfter (.values []) [appImports, matchedImports h]).keys
    ∧ ∃ v, (storeAfter (.values []) [appImports, matchedImports h]).Holds key v ∧ Shareable v := by
  obtain ⟨r, hr, hnew, hfound⟩ := appImports_new
  obtain ⟨key, hcomputes, hkey⟩ := exists_row hr hnew hfound
  obtain ⟨s, hs, hretains⟩ := matchedImports_ok hr hnew hfound hcomputes.keepable.proper
  have hfed := fedBack_matchedImports hr hcomputes.keepable.proper
  obtain ⟨hgiven, hkept⟩ :=
    given_and_kept_shareable (.values []) rfl [appImports,
      matchedImports hcomputes.keepable.proper] hfed
  obtain ⟨-, hshareable, -⟩ :=
    hgiven [appImports] (matchedImports hcomputes.keepable.proper) [] s rfl hs
  exact ⟨r, s, hcomputes.keepable.proper, key, hfed, hs, hretains, hshareable, hkey _,
    (hkept key (hkey _)).imp fun v hv => ⟨hv.1, hv.2.1⟩⟩

end Example

end Session

end CodeSurvey
