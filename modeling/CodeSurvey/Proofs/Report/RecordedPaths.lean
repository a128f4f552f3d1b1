import CodeSurvey.Proofs.Json.Alike
import CodeSurvey.Proofs.Report.FileTexts

namespace CodeSurvey

def Fields.mapAt (name : String) (f : Json → Json) (fields : Fields) : Fields :=
  fields.map fun field => (field.1, if field.1 = name then f field.2 else field.2)

theorem Fields.get?_mapAt (name other : String) (f : Json → Json) (fields : Fields) :
    (fields.mapAt name f).get? other = if other = name then (fields.get? other).map f
      else fields.get? other := by
  refine (get?_mapValues (fun n v => if n = name then f v else v) fields other).trans ?_
  split
  · rfl
  · exact Option.map_id'

def Json.mapAt (name : String) (f : Json → Json) : Json → Json
  | .obj fields => .obj (Fields.mapAt name f fields)
  | v => v

theorem Json.require_mapAt (v : Json) (name other : String) (f : Json → Json) :
    (v.mapAt name f).require other = if other = name then f <$> v.require other
      else v.require other := by
  cases v with
  | obj fields =>
      by_cases h : other = name
      · simp only [mapAt, require, Fields.get?_mapAt, if_pos h]
        cases Fields.get? fields other <;> rfl
      · simp only [mapAt, require, Fields.get?_mapAt, if_neg h]
  | _ => split <;> rfl

namespace ProjectMeta

def placed (place : Option String) (p : ProjectMeta) : ProjectMeta :=
  { p with path := place.map .str }

def atPlace (place : Option String) (fields : Fields) : Fields :=
  fields.erase "path" ++ (place.map fun s => ("path", Json.str s)).toList

def writePlace (place : Option String) : Json → Json
  | .obj fields => if fields.isEmpty then .obj fields else .obj (atPlace place fields)
  | v => v

def Telling (v : Json) : Prop := ∀ fields : Fields, v = .obj fields → fields ≠ [] →
    fields.erase "path" ≠ []

theorem get?_atPlace (place : Option String) (fields : Fields) (name : String) :
    (atPlace place fields).get? name = if name = "path" then place.map .str
      else fields.get? name := by
  rw [atPlace, Fields.get?_append, Fields.get?_erase]
  split
  · rename_i hname
    subst hname
    cases place <;> rfl
  · rename_i hname
    cases place with
    | none => exact Option.or_none
    | some s => exact (congrArg _ (Fields.get?_cons_of_ne _ [] hname)).trans Option.or_none

theorem ofJson_atPlace (place : Option String) (fields : Fields) :
    ofJson (.obj (atPlace place fields)) = placed place <$> ofJson (.obj fields) := by
  have hpath : ((place.map Json.str).getD .null).present = place.map .str := by
    cases place <;> rfl
  simp only [ofJson_obj, get?_atPlace, if_pos, hpath]
  rfl

theorem map_ofJson?_of_not_obj {v : Json} (h : ∀ fields, v ≠ .obj fields)
    (f : ProjectMeta → ProjectMeta) :
    Option.map f <$> ofJson? v = ofJson? v := by
  cases v with
  | obj fields => exact absurd rfl (h fields)
  | _ =>
      unfold ofJson?
      split <;> rfl

theorem ofJson?_writePlace {v : Json} (h : Telling v) (place : Option String) :
    ofJson? (writePlace place v) = Option.map (placed place) <$> ofJson? v := by
  cases v with
  | obj fields =>
      by_cases hempty : fields = []
      · subst hempty
        rfl
      · have hkept : (Json.obj (atPlace place fields)).isEmpty = false := by
          have hmore : atPlace place fields ≠ [] :=
            List.append_ne_nil_of_left_ne_nil (h fields rfl hempty) _
          simpa [Json.isEmpty] using hmore
        have hgiven : (Json.obj fields).isEmpty = false := by simpa [Json.isEmpty] using hempty
        rw [writePlace, if_neg (by simpa using hempty), ofJson?, ofJson?, hkept, hgiven,
          if_neg Bool.false_ne_true, if_neg Bool.false_ne_true, ofJson_atPlace]
        cases ofJson (.obj fields) <;> rfl
  | _ => exact (map_ofJson?_of_not_obj (by simp [writePlace]) _).symm

end ProjectMeta

namespace ReportMeta

variable (target reference : Option String)

def placed (m : ReportMeta) : ReportMeta :=
  { m with
    target := m.target.map (ProjectMeta.placed target)
    reference := m.reference.map (ProjectMeta.placed reference) }

def writePlaces (v : Json) : Json :=
  (v.mapAt "targetProject" (ProjectMeta.writePlace target)).mapAt "referenceProject"
    (ProjectMeta.writePlace reference)

structure Telling (v : Json) : Prop where
  target : ∀ u, v.get "targetProject" = .ok u → ProjectMeta.Telling u
  reference : ∀ u, v.get "referenceProject" = .ok u → ProjectMeta.Telling u

theorem ofJson_writePlaces {v : Json} (h : Telling v) :
    ofJson (writePlaces target reference v) = placed target reference <$> ofJson v := by
  have hgetD (place : Option String) (u : Option Json) :
      (u.map (ProjectMeta.writePlace place)).getD .null
        = ProjectMeta.writePlace place (u.getD .null) := by
    cases u <;> rfl
  cases v with
  | obj fields =>
      have htarget := ProjectMeta.ofJson?_writePlace (h.target _ rfl) target
      have hreference := ProjectMeta.ofJson?_writePlace (h.reference _ rfl) reference
      simp only [writePlaces, Json.mapAt, ofJson_obj, configurationOf, Fields.get?_mapAt,
        String.reduceEq, if_true, if_false, hgetD, htarget, hreference]
      cases ((Fields.get? fields "configuration").getD (.obj [])).asFields with
      | error f => rfl
      | ok configuration =>
          cases ProjectMeta.ofJson? ((Fields.get? fields "targetProject").getD .null) with
          | error f => rfl
          | ok p =>
              cases ProjectMeta.ofJson? ((Fields.get? fields "referenceProject").getD .null) <;> rfl
  | _ => rfl

end ReportMeta

namespace Report

variable (target reference : Option String)

def placed (r : Report) : Report := { r with about := r.about.placed target reference }

def writePlaces (v : Json) : Json :=
  (v.mapAt "analyzerMeta" (ReportMeta.writePlaces target reference)).mapAt "meta"
    (Json.mapAt "analyzerMeta" (ReportMeta.writePlaces target reference))

theorem aboutOf_writePlaces (v : Json) :
    aboutOf (writePlaces target reference v)
      = ReportMeta.writePlaces target reference <$> aboutOf v := by
  have hmeta : (writePlaces target reference v).require "meta"
      = Json.mapAt "analyzerMeta" (ReportMeta.writePlaces target reference)
        <$> v.require "meta" := by
    rw [writePlaces, Json.require_mapAt, if_pos rfl, Json.require_mapAt, if_neg (by decide)]
  cases v with
  | obj fields =>
      simp only [writePlaces, Json.mapAt, aboutOf, Fields.get?_mapAt, String.reduceEq, if_true,
        if_false] at hmeta ⊢
      cases Fields.get? fields "analyzerMeta" with
      | some about => rfl
      | none =>
          simp only [Option.map_none, hmeta]
          cases (Json.obj fields).require "meta" with
          | error f => rfl
          | ok inner =>
              exact (inner.require_mapAt "analyzerMeta" "analyzerMeta" _).trans (if_pos rfl)
  | _ => rfl

def Telling (v : Json) : Prop := ∀ about, aboutOf v = .ok about → ReportMeta.Telling about

theorem ofJson_writePlaces {v : Json} (h : Telling v) :
    ofJson (writePlaces target reference v) = placed target reference <$> ofJson v := by
  have houtput : (writePlaces target reference v).require "queryOutput"
      = v.require "queryOutput" := by
    rw [writePlaces, Json.require_mapAt, if_neg (by decide), Json.require_mapAt, if_neg (by decide)]
  rw [ofJson, ofJson, aboutOf_writePlaces, houtput]
  cases habout : aboutOf v with
  | error f => rfl
  | ok about =>
      rw [Outcome.map_ok, Outcome.ok_bind, Outcome.ok_bind,
        ReportMeta.ofJson_writePlaces target reference (h about habout)]
      cases v.require "queryOutput" with
      | error f => rfl
      | ok output => cases ReportMeta.ofJson about <;> rfl

def paths (r : Report) : Option Json × Option Json :=
  (r.about.target.bind (·.path), r.about.reference.bind (·.path))

theorem paths_placed (r : Report) : (r.placed target reference).paths
    = (r.about.target.bind fun _ => target.map .str, r.about.reference.bind fun _ =>
      reference.map .str) := by
  rw [paths, placed, ReportMeta.placed, Option.bind_map, Option.bind_map]
  rfl

theorem placed_eq_of_paths {r : Report} {target reference target' reference' : Option String}
    (h : (r.placed target reference).paths = (r.placed target' reference').paths) :
    r.placed target reference = r.placed target' reference' := by
  have hproject {p : Option ProjectMeta} {place place' : Option String}
      (h : (p.bind fun _ => place.map Json.str) = p.bind fun _ => place'.map Json.str) :
      p.map (ProjectMeta.placed place) = p.map (ProjectMeta.placed place') := by
    cases p with
    | none => rfl
    | some m => exact congrArg (fun path => some { m with path }) h
  rw [paths_placed, paths_placed, Prod.mk.injEq] at h
  simp only [placed, ReportMeta.placed, hproject h.1, hproject h.2]

end Report

namespace Provided

def paths (p : Provided) : Except Fault (Option Json × Option Json) := Report.paths <$> p.unwind

inductive SameButPaths : Provided → Provided → Prop where
  | read {p q : Provided} (r : Report) (target reference target' reference' : Option String)
      (hp : p.unwind = .ok (r.placed target reference))
        (hq : q.unwind = .ok (r.placed target' reference')) :
      SameButPaths p q
  | unread {p q : Provided} {f : Fault} (hp : p.unwind = .error f) (hq : q.unwind = .error f) :
      SameButPaths p q

theorem sameButPaths_raw {v : Json} (h : Report.Telling v)
    (target reference target' reference' : Option String) :
    SameButPaths (.raw (Report.writePlaces target reference v))
      (.raw (Report.writePlaces target' reference' v)) := by
  have hread := Report.ofJson_writePlaces target reference h
  have hread' := Report.ofJson_writePlaces target' reference' h
  cases hv : Report.ofJson v with
  | error f => exact .unread (hread.trans (congrArg _ hv)) (hread'.trans (congrArg _ hv))
  | ok r =>
      exact .read r target reference target' reference' (hread.trans (congrArg _ hv))
        (hread'.trans (congrArg _ hv))

variable {p q : Provided}

theorem SameButPaths.unwind_eq (h : p.SameButPaths q) (hpaths : p.paths = q.paths) :
    p.unwind = q.unwind := by
  cases h with
  | read r target reference target' reference' hp hq =>
      rw [paths, paths, hp, hq, Outcome.map_ok, Outcome.map_ok] at hpaths
      rw [hp, hq, Report.placed_eq_of_paths (Except.ok.inj hpaths)]
  | unread hp hq => rw [hp, hq]

end Provided

end CodeSurvey
