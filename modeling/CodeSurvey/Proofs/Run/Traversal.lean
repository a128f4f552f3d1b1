import CodeSurvey.Proofs.Path
import CodeSurvey.Proofs.Run.Stages

namespace CodeSurvey

namespace Survey

variable {Tree : Type} {w : Surroundings Tree} {a : Analyzer Tree} {p : Prepared}

theorem reusable_eq_some {c : Config} {r : Report} (h : reusable a c = .ok (some r)) :
    ∃ provided rule items, c.targetResult = some provided ∧ a.fromReport = some rule
      ∧ provided.unwind = .ok r ∧ r.output = .arr items := by
  unfold reusable at h
  split at h
  · rename_i provided rule hprovided hrule
    obtain ⟨s, hs, h⟩ := Outcome.bind_eq_ok.1 h
    split at h
    · rename_i items hitems
      split at h
      · obtain rfl := Option.some.inj (Except.ok.inj h)
        exact ⟨provided, rule, items, hprovided, hrule, hs, hitems⟩
      · exact absurd (Except.ok.inj h) (by simp)
    · exact absurd (Except.ok.inj h) (by simp)
  · exact absurd (Except.ok.inj h) (by simp)

theorem reusable_of_arr {c : Config} {provided : Provided}
    {rule : Report → Option ProjectMeta → Except Fault Json} {r : Report} {items : List Json}
    (hprovided : c.targetResult = some provided) (hrule : a.fromReport = some rule)
    (hr : provided.unwind = .ok r) (hitems : r.output = .arr items)
    (hanalyzer : (r.about.analyzer == .ofOption (a.consumes.map .str)) = true) :
    reusable a c = .ok (some r) := by
  unfold reusable
  rw [hprovided, hrule]
  dsimp only
  rw [hr, Outcome.ok_bind, hitems]
  dsimp only
  rw [if_pos hanalyzer]
  rfl

theorem exists_reusable {c : Config} (hvalid : validate a c = .ok ())
    (hpath : Config.given c.targetPath = none) :
    ∃ r, reusable a c = .ok (some r) := by
  unfold validate at hvalid
  rw [hpath] at hvalid
  cases hresult : c.targetResult with
  | none =>
      rw [hresult] at hvalid
      exact absurd hvalid (by simp [throw, throwThe, MonadExceptOf.throw, bind, Except.bind])
  | some provided =>
      cases hreusable : reusable a c with
      | error f =>
          rw [hresult, hreusable] at hvalid
          exact absurd hvalid (by simp [bind, Except.bind])
      | ok reused =>
          cases reused with
          | some r => exact ⟨r, rfl⟩
          | none =>
              rw [hresult, hreusable] at hvalid
              cases hunwind : provided.unwind <;>
                exact absurd hvalid (by simp [hunwind, throw, throwThe, MonadExceptOf.throw, bind,
                  Except.bind])

theorem outcome_produce (w : Surroundings Tree) (a : Analyzer Tree) (p : Prepared) :
    (produce w a p).outcome = (do
      let output ← (traverse w a p).outcome
      reportOf w a p output) := by
  simp only [produce, started, Traced.debug, Traced.log, Traced.outcome_bind, Traced.outcome_event,
    Outcome.ok_bind, Traced.outcome_ofExcept]

theorem outcome_traverse (w : Surroundings Tree) (a : Analyzer Tree) (p : Prepared) :
    (traverse w a p).outcome = (do
      let provided ← reusable a p.config
      match provided, a.fromReport with
      | some r, some rule => rule r p.reference
      | _, _ =>
          match p.files with
          | none => .error (.setup (.noFiles a.name))
          | some input => (fromFiles w a p input).outcome) := by
  simp only [traverse, started, Traced.debug, Traced.log, Traced.outcome_bind, Traced.outcome_event,
    Outcome.ok_bind, Traced.outcome_ofExcept]
  congr
  funext provided
  cases provided with
  | none => cases p.files <;> rfl
  | some r =>
      cases a.fromReport with
      | none => cases p.files <;> rfl
      | some rule => rfl

def findingsIn (w : Surroundings Tree) (a : Analyzer Tree) (p : Prepared) (project : ProjectMeta)
    (root : String) (f : ParsedFile Tree) : Except Fault (String × Findings) := do
  let path ← Path.nameFromRoot w.folder f.file root
  let findings ← a.inFile f.tree
    { text := f.text, path, project, reference := p.reference, options := p.config.options }
  return (path, findings)

theorem findingsIn_eq_ok_iff {project : ProjectMeta} {root path : String} {f : ParsedFile Tree}
    {findings : Findings} :
    findingsIn w a p project root f = .ok (path, findings) ↔
      Path.nameFromRoot w.folder f.file root = .ok path
      ∧ a.inFile f.tree
        { text := f.text, path, project, reference := p.reference, options := p.config.options }
        = .ok findings := by
  rw [findingsIn, Outcome.bind_eq_ok]
  constructor
  · rintro ⟨name, hname, h⟩
    obtain ⟨found, hfound, h⟩ := Outcome.bind_eq_ok.1 h
    obtain ⟨rfl, rfl⟩ := Prod.mk.inj (Except.ok.inj h)
    exact ⟨hname, hfound⟩
  · rintro ⟨hname, hfound⟩
    exact ⟨path, hname, by rw [hfound]; rfl⟩

theorem outcome_analyzeFiles (w : Surroundings Tree) (a : Analyzer Tree) (p : Prepared)
    (project : ProjectMeta) (root : String) (files : List (ParsedFile Tree)) :
    (analyzeFiles w a p project root files).outcome = files.mapM
    (findingsIn w a p project root) := by
  induction files with
  | nil => rfl
  | cons f rest ih =>
      have hfirst : (analyzeFile w a p project root f).outcome
          = findingsIn w a p project root f := by
        simp only [analyzeFile, Traced.debug, Traced.log, Traced.outcome_bind, Traced.outcome_event,
          Outcome.ok_bind, Traced.outcome_ofExcept]
        rfl
      rw [analyzeFiles, Traced.outcome_bind, hfirst, List.mapM_cons, ← ih]
      congr
      funext first
      rw [Traced.outcome_bind]
      rfl

theorem outcome_fromFiles (w : Surroundings Tree) (a : Analyzer Tree) (p : Prepared)
    (input : ProjectInput) :
    (fromFiles w a p input).outcome = (do
      let reader ← w.readerFor a.dialect
      let parsed ← readFiles reader input.entries
      let found ← parsed.entries.mapM
        (findingsIn w a p (p.target.getD input.project) (rootOf p.config input.project))
      return outputOf found) := by
  have hnote (failed : List String) : (noteFailures a failed).outcome = .ok () := by
    unfold noteFailures
    split <;> rfl
  simp only [fromFiles, readProject, Traced.outcome_bind, Traced.outcome_event,
    Traced.outcome_ofExcept, Outcome.ok_bind, hnote, outcome_analyzeFiles]
  cases w.readerFor a.dialect with
  | error f => rfl
  | ok reader => rfl

theorem rootOf_of_place {project : ProjectMeta} {place : Place}
    (h : project.path = some (.str ("/" ++ Path.join place))) (c : Config) :
    rootOf c project = "/" ++ Path.join place := by
  have hempty : (Json.str ("/" ++ Path.join place)).isEmpty = false := by
    simp [Json.isEmpty]
  simp only [rootOf, h, hempty, Bool.false_eq_true, if_false]
  rfl

theorem traverse_of_files {input : ProjectInput} (hreusable : reusable a p.config = .ok none)
    (hfiles : p.files = some input) :
    (traverse w a p).outcome = (fromFiles w a p input).outcome := by
  simp only [outcome_traverse, hreusable, hfiles, Outcome.ok_bind]

theorem traverse_of_report {r : Report} (hreusable : reusable a p.config = .ok (some r))
    {rule : Report → Option ProjectMeta → Except Fault Json} (hrule : a.fromReport = some rule) :
    (traverse w a p).outcome = rule r p.reference := by
  simp only [outcome_traverse, hreusable, hrule, Outcome.ok_bind]

theorem fromFiles_with_files (files : Option ProjectInput) (input : ProjectInput) :
    (fromFiles w a { p with files } input).outcome = (fromFiles w a p input).outcome := by
  rw [outcome_fromFiles, outcome_fromFiles]
  rfl

end Survey

end CodeSurvey
