import CodeSurvey.Proofs.Report.Decoding

namespace CodeSurvey

namespace Report

def content (r : Report) : Report := (r.mark false).settled

theorem content_settled (r : Report) : r.settled.content = r.content := by
  rw [content, mark_settled, settled_settled, content]

theorem content_mark (r : Report) (fromCache : Bool) : (r.mark fromCache).content = r.content := rfl

theorem content_content (r : Report) : r.content.content = r.content :=
  content_settled (r.mark false)

theorem portable_content (r : Report) : r.content.portable = r.portable := by
  rw [portable, content, mark_settled, toPlain_settled]
  rfl

theorem fromCache_of_toWrapped {r s : Report} (h : r.toWrapped = s.toWrapped) :
    r.about.fromCache = s.about.fromCache := by
  have habout : aboutOf r.toWrapped = aboutOf s.toWrapped := by rw [h]
  have hfields : r.about.toFields = s.about.toFields := Json.obj.inj (Except.ok.inj habout)
  have hmark := r.about.get?_fromCache
  rw [hfields, s.about.get?_fromCache] at hmark
  cases hr : r.about.fromCache <;> cases hs : s.about.fromCache <;> simp [hr, hs] at hmark ⊢

theorem definite_ofJson {v : Json} {r : Report} (h : ofJson v = .ok r) : r.about.Definite := by
  obtain ⟨about, -, h⟩ := Outcome.bind_eq_ok.1 h
  obtain ⟨output, -, h⟩ := Outcome.bind_eq_ok.1 h
  obtain ⟨m, hm, h⟩ := Outcome.bind_eq_ok.1 h
  obtain rfl := Except.ok.inj h
  exact ReportMeta.definite_ofJson hm

theorem definite_mark {r : Report} (h : r.about.Definite) (fromCache : Bool) :
    (r.mark fromCache).about.Definite :=
  ⟨h.target, h.reference⟩

end Report

namespace Provided

def content : Provided → Provided
  | report r => report r.content
  | raw value => raw value

theorem content_content (p : Provided) : p.content.content = p.content := by
  cases p with
  | report r => exact congrArg report r.content_content
  | raw value => rfl

theorem unwind_content (p : Provided) :
    Report.content <$> p.content.unwind = Report.content <$> p.unwind := by
  cases p with
  | report r => exact congrArg Except.ok r.content_content
  | raw value => rfl

theorem portable_content (p : Provided) : p.content.portable = p.portable := by
  cases p with
  | report r => exact congrArg Except.ok r.portable_content
  | raw value => rfl

theorem portable_congr {p q : Provided}
    (h : Report.content <$> p.unwind = Report.content <$> q.unwind) :
    p.portable = q.portable :=
  Outcome.map_congr_of_map h fun r s hrs => by rw [← r.portable_content, hrs, s.portable_content]

theorem map_content_report (r : Option Report) :
    (r.map report).map content = (r.map Report.content).map report := by
  cases r <;> rfl

theorem portable_of_ofJson {v : Json} {r : Report} (h : Report.ofJson v = .ok r) :
    (raw v).portable = .ok r.portable ∧ (raw r.portable).portable = .ok r.portable
      ∧ (raw r.toWrapped).portable = .ok r.portable
      ∧ (raw r.toPlain).portable = .ok r.portable := by
  have hdefinite := Report.definite_ofJson h
  have hkept {value : Json} {s : Report} (hs : Report.ofJson value = .ok s)
      (hsame : s.content = r.content) :
      (raw value).portable = (report r).portable :=
    portable_congr ((congrArg _ hs).trans (congrArg Except.ok hsame))
  refine ⟨hkept h rfl, ?_, ?_, ?_⟩
  · exact hkept (Report.ofJson_toPlain (Report.definite_mark hdefinite false))
      (Report.content_settled _)
  · exact hkept (Report.ofJson_toWrapped hdefinite) r.content_settled
  · exact hkept (Report.ofJson_toPlain hdefinite) r.content_settled

end Provided

end CodeSurvey
