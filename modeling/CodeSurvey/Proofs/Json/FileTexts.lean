import CodeSurvey.Proofs.Json.Proper
import CodeSurvey.Proofs.Outcome
import Mathlib.Data.List.Forall2

namespace CodeSurvey

namespace Json

section Definitions

variable (f : String → String)

mutual

def mapFiles (key : Option String) : Json → Json
  | .obj fields => .obj (mapFilesInFields fields)
  | .arr items => .arr (mapFilesInItems items)
  | .str s => if key = some "file" then .str (f s) else .str s
  | v => v

def mapFilesInItems : List Json → List Json
  | [] => []
  | v :: rest => mapFiles none v :: mapFilesInItems rest

def mapFilesInFields : List (String × Json) → List (String × Json)
  | [] => []
  | (n, v) :: rest => (n, mapFiles (some n) v) :: mapFilesInFields rest

end

mutual

def fileTexts (key : Option String) : Json → List String
  | .obj fields => fileTextsOfFields fields
  | .arr items => fileTextsOfItems items
  | .str s => if key = some "file" then [s] else []
  | _ => []

def fileTextsOfItems : List Json → List String
  | [] => []
  | v :: rest => fileTexts none v ++ fileTextsOfItems rest

def fileTextsOfFields : List (String × Json) → List String
  | [] => []
  | (n, v) :: rest => fileTexts (some n) v ++ fileTextsOfFields rest

end

mutual

inductive SameButFiles : Option String → Json → Json → Prop where
  | same (key : Option String) (v : Json) : SameButFiles key v v
  | file (s t : String) : SameButFiles (some "file") (.str s) (.str t)
  | items {key : Option String} {items others : List Json}
      (h : List.Forall₂ (SameButFiles none) items others) :
      SameButFiles key (.arr items) (.arr others)
  | fields {key : Option String} {fields others : Fields}
      (h : List.Forall₂ FieldSameButFiles fields others) :
      SameButFiles key (.obj fields) (.obj others)

inductive FieldSameButFiles : String × Json → String × Json → Prop where
  | value {name : String} {v w : Json} (h : SameButFiles (some name) v w) :
      FieldSameButFiles (name, v) (name, w)

end

end Definitions

end Json

namespace Fields

def mapFiles (f : String → String) (fields : Fields) : Fields :=
  fields.map fun field => (field.1, field.2.mapFiles f (some field.1))

def SameButFiles (fields others : Fields) : Prop :=
  List.Forall₂ Json.FieldSameButFiles fields others

end Fields

namespace Json

variable {key : Option String} {f g : String → String} {v : Json}

section MapFiles

variable (f)

theorem mapFiles_arr (key : Option String) (items : List Json) :
    (arr items).mapFiles f key = .arr (items.map (mapFiles f none)) := by
  have hitems : mapFilesInItems f items = items.map (mapFiles f none) := by
    induction items with
    | nil => rfl
    | cons v rest ih => rw [mapFilesInItems, ih, List.map_cons]
  rw [mapFiles, hitems]

theorem mapFiles_obj (key : Option String) (fields : Fields) :
    (obj fields).mapFiles f key = .obj (fields.mapFiles f) := by
  have hfields : mapFilesInFields f fields = fields.mapFiles f := by
    induction fields with
    | nil => rfl
    | cons field rest ih =>
        rw [mapFilesInFields, ih]
        rfl
  rw [mapFiles, hfields]

theorem mapFiles_str (h : key ≠ some "file") (s : String) : (str s).mapFiles f key = .str s := by
  rw [mapFiles, if_neg h]

theorem mapFiles_of_ne (h : key ≠ some "file") (v : Json) :
    v.mapFiles f key = v.mapFiles f none := by
  have hnone : (none : Option String) ≠ some "file" := nofun
  cases v with
  | str s => rw [mapFiles_str f h, mapFiles_str f hnone]
  | arr items => rw [mapFiles_arr, mapFiles_arr]
  | obj fields => rw [mapFiles_obj, mapFiles_obj]
  | _ => rfl

theorem mapFiles_mapFiles (g f : String → String) (key : Option String) (v : Json) :
    (v.mapFiles f key).mapFiles g key = v.mapFiles (g ∘ f) key := by
  induction v using Json.induct generalizing key with
  | str s =>
      by_cases h : key = some "file"
      · simp only [mapFiles, if_pos h, Function.comp_apply]
      · rw [mapFiles_str f h, mapFiles_str g h, mapFiles_str _ h]
  | arr items ih =>
      rw [mapFiles_arr, mapFiles_arr, mapFiles_arr, List.map_map]
      exact congrArg arr (List.map_congr_left fun v hv => ih v hv none)
  | obj fields ih =>
      rw [mapFiles_obj, mapFiles_obj, mapFiles_obj, Fields.mapFiles, Fields.mapFiles, List.map_map]
      exact congrArg obj (List.map_congr_left fun field hfield =>
        congrArg (Prod.mk field.1) (ih field hfield _))
  | _ => rfl

theorem isEmpty_mapFiles (h : key ≠ some "file") (v : Json) :
    (v.mapFiles f key).isEmpty = v.isEmpty := by
  cases v with
  | str s => rw [mapFiles_str f h]
  | arr items => rw [mapFiles_arr, isEmpty, isEmpty, List.isEmpty_map]
  | obj fields => rw [mapFiles_obj, isEmpty, isEmpty, Fields.mapFiles, List.isEmpty_map]
  | _ => rfl

theorem present_mapFiles (key : Option String) (v : Json) :
    (v.mapFiles f key).present = v.present.map (mapFiles f key) := by
  cases v with
  | str s =>
      rw [mapFiles]
      split
      · rename_i h
        simp [present, mapFiles, h]
      · rename_i h
        simp [present, mapFiles, h]
  | arr items => simp [mapFiles_arr, present]
  | obj fields => simp [mapFiles_obj, present]
  | _ => rfl

theorem sameButFiles_mapFiles (key : Option String) (v : Json) :
    SameButFiles key v (v.mapFiles f key) := by
  induction v using Json.induct generalizing key with
  | str s =>
      by_cases h : key = some "file"
      · rw [mapFiles, if_pos h, h]
        exact .file _ _
      · rw [mapFiles_str f h]
        exact .same key _
  | arr items ih =>
      rw [mapFiles_arr]
      exact .items (List.forall₂_map_right_iff.2 (List.forall₂_same.2 fun v hv => ih v hv none))
  | obj fields ih =>
      rw [mapFiles_obj]
      exact .fields (List.forall₂_map_right_iff.2 (List.forall₂_same.2 fun field hfield =>
        .value (ih field hfield _)))
  | _ => exact .same key _

end MapFiles

section FileTexts

theorem fileTexts_arr (key : Option String) (items : List Json) :
    (arr items).fileTexts key = items.flatMap (fileTexts none) := by
  rw [fileTexts]
  induction items with
  | nil => rfl
  | cons v rest ih => rw [fileTextsOfItems, ih, List.flatMap_cons]

theorem fileTexts_obj (key : Option String) (fields : Fields) :
    (obj fields).fileTexts key = fields.flatMap fun field => field.2.fileTexts (some field.1) := by
  rw [fileTexts]
  induction fields with
  | nil => rfl
  | cons field rest ih => rw [fileTextsOfFields, ih, List.flatMap_cons]

theorem fileTexts_mapFiles (f : String → String) (key : Option String) (v : Json) :
    (v.mapFiles f key).fileTexts key = (v.fileTexts key).map f := by
  induction v using Json.induct generalizing key with
  | str s =>
      by_cases h : key = some "file"
      · simp only [mapFiles, if_pos h, fileTexts, List.map_singleton]
      · rw [mapFiles_str f h, fileTexts, if_neg h, List.map_nil]
  | arr items ih =>
      rw [mapFiles_arr, fileTexts_arr, fileTexts_arr, List.flatMap_map, List.map_flatMap]
      exact List.flatMap_congr fun v hv => ih v hv none
  | obj fields ih =>
      rw [mapFiles_obj, fileTexts_obj, fileTexts_obj, Fields.mapFiles, List.flatMap_map,
        List.map_flatMap]
      exact List.flatMap_congr fun field hfield => ih field hfield _
  | _ => rfl

theorem mapFiles_eq_self (h : ∀ s ∈ v.fileTexts key, f s = s) : v.mapFiles f key = v := by
  induction v using Json.induct generalizing key with
  | str s =>
      by_cases hkey : key = some "file"
      · have hs : f s = s := h s (by simp [fileTexts, hkey])
        rw [mapFiles, if_pos hkey, hs]
      · exact mapFiles_str f hkey s
  | arr items ih =>
      have hitems : items.map (mapFiles f none) = items := by
        refine (List.map_congr_left fun v hv => ih v hv fun s hs => ?_).trans (List.map_id' items)
        exact h s (by rw [fileTexts_arr]; exact List.mem_flatMap.2 ⟨v, hv, hs⟩)
      rw [mapFiles_arr, hitems]
  | obj fields ih =>
      have hfields : Fields.mapFiles f fields = fields := by
        refine (List.map_congr_left fun field hfield => ?_).trans (List.map_id' fields)
        refine congrArg (Prod.mk field.1) (ih field hfield fun s hs => ?_)
        exact h s (by rw [fileTexts_obj]; exact List.mem_flatMap.2 ⟨field, hfield, hs⟩)
      rw [mapFiles_obj, hfields]
  | _ => rfl

end FileTexts

end Json

namespace Fields

variable (f : String → String) (fields : Fields) (name : String)

theorem get?_mapFiles :
    (fields.mapFiles f).get? name = (fields.get? name).map (Json.mapFiles f (some name)) :=
  get?_mapValues (fun name => Json.mapFiles f (some name)) fields name

theorem has_mapFiles : (fields.mapFiles f).has name = fields.has name := by
  rw [has, has, get?_mapFiles, Option.isSome_map]

theorem getD_mapFiles {default : Json} (h : default.mapFiles f (some name) = default) :
    ((fields.mapFiles f).get? name).getD default = ((fields.get? name).getD default).mapFiles f
    (some name) := by
  rw [get?_mapFiles]
  cases fields.get? name with
  | none => exact h.symm
  | some v => rfl

theorem put_mapFiles (value : Json) :
    (fields.put name value).mapFiles f = (fields.mapFiles f).put name
    (value.mapFiles f (some name)) := by
  induction fields with
  | nil => rfl
  | cons field rest ih =>
      obtain ⟨n, v⟩ := field
      by_cases hn : n = name
      · rw [put, if_pos hn, hn]
        exact (if_pos rfl).symm
      · rw [put, if_neg hn]
        exact (congrArg (List.cons _) ih).trans (if_neg hn).symm

theorem filter_mapFiles (p : String → Bool) :
    (fields.mapFiles f).filter (fun field => p field.1) = mapFiles f
    (fields.filter fun field => p field.1) := by
  rw [mapFiles, List.filter_map]
  rfl

theorem erase_mapFiles : (fields.mapFiles f).erase name = (fields.erase name).mapFiles f :=
  filter_mapFiles f fields (· != name)

theorem mapFiles_mapFiles (g : String → String) :
    (fields.mapFiles f).mapFiles g = fields.mapFiles (g ∘ f) := by
  have hobj := Json.mapFiles_mapFiles g f none (.obj fields)
  rwa [Json.mapFiles_obj, Json.mapFiles_obj, Json.mapFiles_obj, Json.obj.injEq] at hobj

theorem sameButFiles_mapFiles : fields.SameButFiles (fields.mapFiles f) :=
  List.forall₂_map_right_iff.2 (List.forall₂_same.2 fun _ _ =>
    .value (Json.sameButFiles_mapFiles f _ _))

end Fields

theorem Json.require_mapFiles (f : String → String) (key : Option String) (v : Json)
    (name : String) :
    (v.mapFiles f key).require name = Json.mapFiles f (some name) <$> v.require name := by
  cases v with
  | obj fields =>
      rw [mapFiles_obj, require, require, Fields.get?_mapFiles]
      cases Fields.get? fields name <;> rfl
  | str s =>
      rw [mapFiles]
      split <;> rfl
  | _ => rfl

end CodeSurvey
