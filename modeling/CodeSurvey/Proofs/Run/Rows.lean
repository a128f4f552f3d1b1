import CodeSurvey.Proofs.Report.Misshapen
import CodeSurvey.Proofs.Run.Agreement

namespace CodeSurvey

namespace Store

inductive Stumbles (text : String) : Prop where
  | numberTooLong (h : Json.read text = .error .numberTooLong) : Stumbles text
  | nestedTooDeep (h : Json.read text = .error .nestedTooDeep) : Stumbles text
  | misshapen {fields : Fields} (hread : Json.read text = .ok (.obj fields))
      (h : Report.Misshapen (.obj fields)) :
      Stumbles text

end Store

namespace Survey

open Store

theorem reportOfPayload_of_lack {payload : Json} {f : Fault} (h : Report.ofJson payload = .error f)
    (hlack : f.IsLack) :
    reportOfPayload payload = .ok none := by
  unfold reportOfPayload
  split
  · rfl
  · rw [h]
    cases f with
    | missingKey key => rfl
    | mistyped => rfl
    | _ => exact absurd hlack id

theorem exists_reportOfPayload {payload : Json} (h : ¬Report.Misshapen payload) :
    ∃ found, reportOfPayload payload = .ok found := by
  cases hread : Report.ofJson payload with
  | error f => exact ⟨none, reportOfPayload_of_lack hread (Report.lack_of_ofJson h hread)⟩
  | ok r =>
      unfold reportOfPayload
      split
      · exact ⟨none, rfl⟩
      · rw [hread]
        exact ⟨_, rfl⟩

theorem reportOfPayload_of_misshapen {fields : Fields} (h : Report.Misshapen (.obj fields)) :
    ∃ f, reportOfPayload (.obj fields) = .error f := by
  obtain ⟨f, hf, hlack⟩ := Report.ofJson_of_misshapen h
  have hempty : (Json.obj fields).isEmpty = false := by
    obtain ⟨output, houtput⟩ := h.output
    cases fields with
    | nil => exact absurd houtput (by simp [Json.require, Fields.get?])
    | cons field rest => rfl
  refine ⟨f, ?_⟩
  rw [reportOfPayload, if_neg (by simp [hempty]), hf]
  cases f with
  | missingKey key => exact absurd trivial hlack
  | mistyped => exact absurd trivial hlack
  | _ => rfl

section Lookup

variable {rows : Table String} {key : StoreKey} {text : String}

theorem cached_of_row (hrow : Table.find? rows key = some text) : cached (.texts rows) key = (do
    match ← payloadOf text with
    | some payload => reportOfPayload payload
    | none => return none) := by
  have hget : (Store.texts rows).get key = payloadOf text := by
    simp only [Store.get, hrow]
  exact congrArg (fun payload => payload >>= fun
    | some payload => reportOfPayload payload
    | none => return none) hget

theorem exists_cached (hrow : Table.find? rows key = some text) (h : ¬Stumbles text) :
    ∃ found, cached (.texts rows) key = .ok found := by
  rw [cached_of_row hrow, payloadOf]
  cases hread : Json.read text with
  | error e =>
      cases e with
      | failed expected position => exact ⟨none, rfl⟩
      | numberTooLong => exact absurd (.numberTooLong hread) h
      | nestedTooDeep => exact absurd (.nestedTooDeep hread) h
  | ok v =>
      cases v with
      | obj fields => exact exists_reportOfPayload fun hmisshapen => h (.misshapen hread hmisshapen)
      | _ => exact ⟨none, rfl⟩

theorem cached_of_stumbles (hrow : Table.find? rows key = some text) (h : Stumbles text) :
    ∃ f, cached (.texts rows) key = .error f := by
  rw [cached_of_row hrow, payloadOf]
  cases h with
  | numberTooLong hread =>
      rw [hread]
      exact ⟨.invalid, rfl⟩
  | nestedTooDeep hread =>
      rw [hread]
      exact ⟨.nestedTooDeep, rfl⟩
  | misshapen hread h =>
      rw [hread]
      exact reportOfPayload_of_misshapen h

theorem cached_erased (rows : Table String) (key : StoreKey) :
    cached (.texts (Table.erase rows key)) key = .ok none := by
  rw [cached, show Store.texts (Table.erase rows key) = (Store.texts rows).erase key from rfl,
    Store.get_erase_self]
  rfl

end Lookup

variable {Tree : Type} {w : Surroundings Tree} {a : Analyzer Tree} {c : Config} {p : Prepared}
  {rows : Table String} {text : String}

structure PassesOver (w : Surroundings Tree) (a : Analyzer Tree) (rows : Table String)
    (key : StoreKey) (c : Config) :
    Prop where
  outcome : (execute w a (.texts rows) (.ok c)).outcome
    = (execute w a (.texts (Table.erase rows key)) (.ok c)).outcome
  events : (execute w a (.texts rows) (.ok c)).events
    = (execute w a (.texts (Table.erase rows key)) (.ok c)).events
  replaced : ∀ r, (execute w a (.texts rows) (.ok c)).outcome = .ok r → r.isSkipped = false →
    (execute w a (.texts rows) (.ok c)).store = .texts (Table.put rows key r.toWrapped.text)
  left : (∀ r, (execute w a (.texts rows) (.ok c)).outcome = .ok r → r.isSkipped = true) →
    (execute w a (.texts rows) (.ok c)).store = .texts rows

theorem passesOver_of_unserved (hw : KnownReasons w) (ha : ListsFindings a)
    (hp : Identified w a c p) (hunserved : ∀ r, ¬Serves w a (.texts rows) (.ok c) r)
    (hcached : (refusal w p.config).outcome = .ok none →
      cached (.texts rows) (key a p) = .ok none) :
    PassesOver w a rows (key a p) c := by
  have hcongr :
      (run w a (.texts rows) c).outcome = (run w a (.texts (Table.erase rows (key a p))) c).outcome
      ∧ (run w a (.texts rows) c).events
      = (run w a (.texts (Table.erase rows (key a p))) c).events := by
    apply run_congr
    intro q hq hrefusal
    obtain rfl := Except.ok.inj (hq.symm.trans (identify_eq_ok_iff.2 hp))
    rw [hcached hrefusal, cached_erased]
  have hlisted {r : Report} (h : r.output.IsList) : r.isSkipped = false := by
    obtain ⟨items, hitems⟩ := h
    simp only [Report.isSkipped, Report.skipReason, hitems, Option.isSome_none]
  obtain ⟨e, he⟩ := exists_ends hw ha (.texts rows) (.ok c)
  refine ⟨hcongr.1, congrArg ((started a "execute").events ++ ·) hcongr.2, ?_, ?_⟩
  · intro r hr hfound
    cases e with
    | raised =>
        obtain ⟨⟨f, hf⟩, -⟩ := he
        exact absurd (hr.symm.trans hf) (by simp)
    | leftOut =>
        obtain ⟨reason, s, -, -, hs, -, houtput, -⟩ := he
        obtain rfl := Except.ok.inj (hr.symm.trans hs)
        exact absurd hfound (by simp [Report.isSkipped, Report.skipReason, houtput])
    | served =>
        obtain ⟨s, hserves, -⟩ := he
        exact absurd hserves (hunserved s)
    | computed =>
        obtain ⟨q, s, hmakes, -, hs, -, -, hstore, -⟩ := he
        obtain ⟨c', hc, hq⟩ := hmakes.identified
        obtain rfl := Except.ok.inj hc
        obtain rfl := Except.ok.inj ((identify_eq_ok_iff.2 hq).symm.trans (identify_eq_ok_iff.2 hp))
        obtain rfl := Except.ok.inj (hr.symm.trans hs)
        exact hstore
  · intro hskipped
    apply store_of_ends he
    rintro rfl
    obtain ⟨_, r, -, -, hr, -, hlist, -⟩ := he
    exact absurd (hskipped r hr) (by simp [hlisted hlist])

theorem served_or_passedOver (hw : KnownReasons w) (ha : ListsFindings a) (hp : Identified w a c p)
    (hrow : Table.find? rows (key a p) = some text) (h : ¬Stumbles text) :
    (∃ r, Serves w a (.texts rows) (.ok c) r) ∨ PassesOver w a rows (key a p) c := by
  obtain ⟨found, hfound⟩ := exists_cached hrow h
  by_cases hserves : ∃ r, Serves w a (.texts rows) (.ok c) r
  · exact .inl hserves
  · right
    apply passesOver_of_unserved hw ha hp fun r hr => hserves ⟨r, hr⟩
    intro hrefusal
    cases found with
    | none => exact hfound
    | some r =>
        obtain ⟨row, hkeeps, -⟩ := keeps_of_cached hfound
        exact absurd ⟨row, c, p, rfl, hp, passes_of_refusal hrefusal, hkeeps⟩ hserves

end Survey

open Survey in
theorem row_served_or_passed_over (d : Disk) (separator : String) {a : Analyzer SourceTree}
    (ha : a ∈ Catalogue.all) {c : Config} {p : Prepared}
    (hp : Identified (d.surroundings separator) a c p) {rows : Table String} {text : String}
    (hrow : Table.find? rows (key a p) = some text) :
    (¬Store.Stumbles text → (∃ found, cached (.texts rows) (key a p) = .ok found)
      ∧ ((∃ r, Serves (d.surroundings separator) a (.texts rows) (.ok c) r
          ∧ (execute (d.surroundings separator) a (.texts rows) (.ok c)).outcome = .ok (r.mark true)
          ∧ (execute (d.surroundings separator) a (.texts rows) (.ok c)).store = .texts rows)
        ∨ PassesOver (d.surroundings separator) a rows (key a p) c))
    ∧ (Store.Stumbles text → ∃ f, cached (.texts rows) (key a p) = .error f
      ∧ (Passes (d.surroundings separator) p.config →
        (execute (d.surroundings separator) a (.texts rows) (.ok c)).outcome = .error f
        ∧ (execute (d.surroundings separator) a (.texts rows) (.ok c)).store = .texts rows)) := by
  constructor
  · intro h
    refine ⟨exists_cached hrow h, ?_⟩
    rcases served_or_passedOver (d.knownReasons separator) (Catalogue.listsFindings ha) hp hrow
      h with ⟨r, hr⟩ | habsent
    · left
      have hserves := hr
      obtain ⟨config, q, hc, hq, hpasses, hkeeps⟩ := hr
      obtain rfl := Except.ok.inj hc
      obtain ⟨houtcome, hstore, -⟩ :=
        run_of_cached (identify_eq_ok_iff.2 hq) (refusal_of_passes hpasses) (cached_of_keeps hkeeps)
      exact ⟨r, hserves, houtcome, hstore⟩
    · exact .inr habsent
  · intro h
    obtain ⟨f, hf⟩ := cached_of_stumbles hrow h
    refine ⟨f, hf, fun hpasses => ?_⟩
    exact run_of_cached_error (identify_eq_ok_iff.2 hp) (refusal_of_passes hpasses) hf

section Example

open Survey Session

theorem read_nothing : Json.read "nothing" = .error (.failed .value 0) := by rfl

theorem not_stumbles_nothing : ¬Store.Stumbles "nothing" := by
  intro h
  cases h with
  | numberTooLong h => exact absurd (read_nothing.symm.trans h) (by simp)
  | nestedTooDeep h => exact absurd (read_nothing.symm.trans h) (by simp)
  | misshapen h _ => exact absurd (read_nothing.symm.trans h) (by simp)

theorem row_served_or_passed_over_in_app : ∃ p rows,
    Identified (smallProject.surroundings "/") Catalogue.findImports findInApp p
    ∧ Table.find? rows (key Catalogue.findImports p) = some "nothing"
    ∧ PassesOver (smallProject.surroundings "/") Catalogue.findImports rows
      (key Catalogue.findImports p) findInApp := by
  obtain ⟨p, hp, -⟩ := identified_appImports
  have hrow : Table.find? [(key Catalogue.findImports p, "nothing")] (key Catalogue.findImports p)
      = some "nothing" :=
    List.lookup_cons_self
  refine ⟨p, _, hp, hrow, ?_⟩
  obtain ⟨-, hserved | habsent⟩ :=
    (row_served_or_passed_over smallProject "/" (by simp [Catalogue.all]) hp hrow).1
      not_stumbles_nothing
  · obtain ⟨r, ⟨config, q, hc, hq, -, payload, hget, -⟩, -⟩ := hserved
    obtain rfl := Except.ok.inj hc
    obtain rfl := Except.ok.inj ((identify_eq_ok_iff.2 hp).symm.trans (identify_eq_ok_iff.2 hq))
    rw [Store.get, hrow] at hget
    exact absurd hget (by simp [Store.payloadOf, read_nothing])
  · exact habsent

def accountlessRow :
    String := "\x7b\"queryOutput\": [], \"meta\": \x7b\"analyzerMeta\": null\x7d\x7d"

theorem read_accountlessRow : Json.read accountlessRow
    = .ok (.obj [("queryOutput", .arr []), ("meta", .obj [("analyzerMeta", .null)])]) := by rfl

theorem accountless_row_breaks_in_app : ∃ key rows, appImports.Derives key
    ∧ Table.find? rows key = some accountlessRow
    ∧ (appImports.run (.texts rows)).outcome = .error .unsupported
    ∧ ∃ r, (appImports.run (.texts (Table.erase rows key))).outcome = .ok r := by
  obtain ⟨p, hp, happ⟩ := identified_appImports
  have hrow :
      Table.find? [(key Catalogue.findImports p, accountlessRow)] (key Catalogue.findImports p)
      = some accountlessRow := List.lookup_cons_self
  have hpasses : Passes appImports.surroundings p.config := by
    rw [happ.config]
    exact passes_of_no_reference rfl
  have hcached :
      cached (.texts [(key Catalogue.findImports p, accountlessRow)]) (key Catalogue.findImports p)
      = .error .unsupported := by
    rw [cached_of_row hrow, Store.payloadOf, read_accountlessRow]
    rfl
  refine ⟨key Catalogue.findImports p, _, ⟨findInApp, p, rfl, hp, rfl⟩, hrow, ?_, ?_⟩
  · rw [Call.outcome_run rfl]
    exact (run_of_cached_error (identify_eq_ok_iff.2 hp) (refusal_of_passes hpasses) hcached).1
  · obtain ⟨r, hr, -⟩ := appImports_new
    refine ⟨r, ?_⟩
    rw [← hr, Call.outcome_run rfl, Call.outcome_run rfl]
    refine (run_congr fun q hq _ => ?_).1
    obtain rfl := Except.ok.inj ((identify_eq_ok_iff.2 hp).symm.trans hq)
    exact cached_erased _ _

end Example

end CodeSurvey
