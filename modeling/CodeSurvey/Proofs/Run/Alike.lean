import CodeSurvey.Proofs.Project.Below
import CodeSurvey.Proofs.Run.Fields
import CodeSurvey.Proofs.Run.Proper
import CodeSurvey.Run.Identity

namespace CodeSurvey

namespace Portable

theorem withSlashes_sorted (key : Option String) (v : Json) :
    (withSlashes key v).sorted = withSlashes key v.sorted := by
  induction v using Json.induct generalizing key with
  | null => rfl
  | bool b => rfl
  | int n => rfl
  | real d => rfl
  | str s =>
      simp only [withSlashes, Json.sorted]
      split
      · rfl
      · rfl
  | arr items ih =>
      simp only [withSlashes, Json.sorted_arr, itemsWithSlashes_eq, List.map_map]
      exact congrArg Json.arr (List.map_congr_left fun v hv => ih v hv none)
  | obj fields ih =>
      have hmap : ((fieldsWithSlashes fields).map fun field => (field.1, Json.sorted field.2))
          = (fields.map fun field => (field.1, Json.sorted field.2)).map fun field =>
            (field.1, withSlashes (some field.1) field.2) := by
        rw [fieldsWithSlashes_eq, List.map_map, List.map_map]
        exact List.map_congr_left fun field hfield => congrArg (Prod.mk field.1) (ih field hfield _)
      have hsort (l : Fields) :
          (l.mergeSort Json.fieldLe).map (fun field =>
            (field.1, withSlashes (some field.1) field.2))
          = (l.map fun field => (field.1, withSlashes (some field.1) field.2)).mergeSort
            Json.fieldLe :=
        List.map_mergeSort fun a _ b _ => rfl
      simp only [withSlashes, Json.sorted_obj, hmap]
      rw [fieldsWithSlashes_eq, hsort]

theorem alike_withSlashes {v w : Json} (h : v.Alike w) (key : Option String) :
    (withSlashes key v).Alike (withSlashes key w) := by
  rw [Json.Alike, withSlashes_sorted, withSlashes_sorted, h]

theorem get?_fieldsWithSlashes (f : Fields) (name : String) :
    Fields.get? (fieldsWithSlashes f) name = (f.get? name).map (withSlashes (some name)) := by
  rw [fieldsWithSlashes_eq]
  exact Fields.get?_mapValues (fun name => withSlashes (some name)) f name

theorem alike_fieldsWithSlashes {f g : Fields} (h : f.Alike g) :
    Fields.Alike (fieldsWithSlashes f) (fieldsWithSlashes g) := by
  intro name
  rw [get?_fieldsWithSlashes, get?_fieldsWithSlashes, Option.map_map, Option.map_map]
  have hcomp : Json.sorted ∘ withSlashes (some name) = withSlashes (some name) ∘ Json.sorted :=
    funext (withSlashes_sorted (some name))
  rw [hcomp, ← Option.map_map, ← Option.map_map, h name]

theorem alike_dropResult {f g : Fields} (h : f.Alike g) : (dropResult f).Alike (dropResult g) := by
  have hhas : f.has "referenceProjectResult" = g.has "referenceProjectResult" := by
    have hname := congrArg Option.isSome (h "referenceProjectResult")
    rwa [Option.isSome_map, Option.isSome_map] at hname
  rw [dropResult, dropResult, hhas]
  split
  · exact h.erase _
  · exact h.erase _

end Portable

namespace Identity

theorem length_digest (seed : Json) : (digest seed).length = digestLength := by
  have hword (x : UInt32) : 8 ≤ (Digest.hexWord x).length := by
    simp only [Digest.hexWord, List.length_append, List.length_replicate]
    omega
  have hsha (octets : List UInt8) : 40 ≤ (Digest.sha1 octets).length := by
    simp only [Digest.sha1, Digest.State.words, List.flatMap_cons, List.flatMap_nil,
      List.length_append, List.length_nil]
    generalize Digest.compressAll _ _ _ = s
    have ha := hword s.a
    have hb := hword s.b
    have hc := hword s.c
    have hd := hword s.d
    have he := hword s.e
    omega
  have hlength := hsha (Text.Utf8.encode seed.canonical)
  rw [digest, List.length_take, digestLength]
  omega

theorem digest_of_ofSeed {target reference target' reference' : Option ProjectMeta}
    {seed seed' : Json} (h : ofSeed target reference seed = ofSeed target' reference' seed') :
    digest seed = digest seed' := by
  have hchars := String.ofList_injective h
  exact (List.append_inj' hchars (by rw [length_digest, length_digest])).2

theorem proper_projectSeed {p : Option ProjectMeta} (h : ∀ m ∈ p, m.Proper) :
    (projectSeed p).Proper := by
  cases p with
  | none => exact .null
  | some m => exact (h m rfl).withoutPath.toJson

structure SameSeed (target reference target' reference' : Option ProjectMeta)
    (fields fields' : Fields) : Prop where
  target : (projectSeed target).Alike (projectSeed target')
  reference : (projectSeed reference).Alike (projectSeed reference')
  configuration : (Config.withoutPaths fields).Alike (Config.withoutPaths fields')

theorem sameSeed_of_canonical {target reference target' reference' : Option ProjectMeta}
    {fields fields' : Fields} (htarget : ∀ m ∈ target, m.Proper)
    (hreference : ∀ m ∈ reference, m.Proper) (htarget' : ∀ m ∈ target', m.Proper)
    (hreference' : ∀ m ∈ reference', m.Proper) (hfields : fields.Proper) (hfields' : fields'.Proper)
    (h : (seedOf target reference fields).canonical
      = (seedOf target' reference' fields').canonical) :
    SameSeed target reference target' reference' fields fields' := by
  have hproper {target reference : Option ProjectMeta} {fields : Fields}
      (htarget : ∀ m ∈ target, m.Proper)
      (hreference : ∀ m ∈ reference, m.Proper) (hfields : fields.Proper) :
      Fields.Proper [("targetProject", projectSeed target),
        ("referenceProject", projectSeed reference),
        ("analyzerConfig", .obj (Config.withoutPaths fields))] :=
    Fields.proper_cons (by simp [Fields.names]) (proper_projectSeed htarget)
      (Fields.proper_cons (by simp [Fields.names]) (proper_projectSeed hreference)
        (Fields.proper_cons List.not_mem_nil (hfields.filter _) Fields.proper_nil))
  have hseed := hproper htarget hreference hfields
  have hseed' := hproper htarget' hreference' hfields'
  have halike :=
    (Fields.alike_iff hseed.nodup hseed'.nodup).1 (Json.alike_of_canonical hseed hseed' h)
  refine ⟨Option.some.inj (halike "targetProject"), Option.some.inj (halike "referenceProject"), ?_⟩
  exact (Fields.alike_iff (hfields.filter _).nodup (hfields'.filter _).nodup).1
    (Option.some.inj (halike "analyzerConfig"))

end Identity

namespace ProjectMeta

variable {m m' : ProjectMeta}

theorem alike_fields (hm : m.Proper) (hm' : m'.Proper)
    (h : m.withoutPath.toJson.Alike m'.withoutPath.toJson) :
    Fields.Alike m.withoutPath.toFields m'.withoutPath.toFields :=
  (Fields.alike_iff (Fields.Proper.nodup hm.withoutPath.toJson)
    (Fields.Proper.nodup hm'.withoutPath.toJson)).1 h

theorem name_of_alike (hm : m.Proper) (hm' : m'.Proper)
    (h : m.withoutPath.toJson.Alike m'.withoutPath.toJson) :
    m.name = m'.name :=
  Json.str.inj (Option.some.inj (alike_fields hm hm' h "name"))

theorem version_of_alike (hm : m.Proper) (hm' : m'.Proper)
    (h : m.withoutPath.toJson.Alike m'.withoutPath.toJson) :
    m.version = m'.version :=
  Json.str.inj (Option.some.inj (alike_fields hm hm' h "version"))

theorem commit_of_alike (hm : m.Proper) (hm' : m'.Proper)
    (h : m.withoutPath.toJson.Alike m'.withoutPath.toJson) :
    (m.commit.filter fun c => !c.isEmpty).map Json.sorted
      = (m'.commit.filter fun c => !c.isEmpty).map Json.sorted := by
  have hcommit := alike_fields hm hm' h "commitHash"
  rw [get?_commit, get?_commit] at hcommit
  exact hcommit

end ProjectMeta

namespace Identity

theorem projects_of_alike {p p' : Option ProjectMeta} (h : (projectSeed p).Alike (projectSeed p')) :
    (p = none ∧ p' = none)
      ∨ ∃ m m', p = some m ∧ p' = some m' ∧ m.withoutPath.toJson.Alike m'.withoutPath.toJson := by
  cases p with
  | none =>
      cases p' with
      | none => exact .inl ⟨rfl, rfl⟩
      | some m' =>
          exact absurd h (by simp [projectSeed, Json.ofOption, Json.Alike, Json.sorted,
            ProjectMeta.toJson])
  | some m =>
      cases p' with
      | none =>
          exact absurd h (by simp [projectSeed, Json.ofOption, Json.Alike, Json.sorted,
            ProjectMeta.toJson])
      | some m' => exact .inr ⟨m, m', rfl, rfl, h⟩

end Identity

namespace Report

theorem output_of_portable {r r' : Report} (hr : r.Proper) (hr' : r'.Proper)
    (h : r.portable.Alike r'.portable) :
    r.output.Alike r'.output := by
  have hproper := (hr.mark false).toPlain
  have hproper' := (hr'.mark false).toPlain
  exact Option.some.inj
    ((Fields.alike_iff (Fields.Proper.nodup hproper) (Fields.Proper.nodup hproper')).1 h
      "queryOutput")

end Report

namespace Config

theorem get?_withoutPaths {fields : Fields} {name : String} (h : name ≠ targetPathKey)
    (h' : name ≠ referencePathKey) :
    (withoutPaths fields).get? name = fields.get? name := by
  have hfilter :=
    Fields.Alike.get?_filter_name (fun n => n != targetPathKey && n != referencePathKey) fields name
  rw [if_pos (by simp [h, h'])] at hfilter
  exact hfilter

theorem get?_withoutPaths_of_path {fields : Fields} {name : String}
    (h : name = targetPathKey ∨ name = referencePathKey) :
    (withoutPaths fields).get? name = none := by
  have hfilter :=
    Fields.Alike.get?_filter_name (fun n => n != targetPathKey && n != referencePathKey) fields name
  rw [if_neg (by rcases h with rfl | rfl <;> decide)] at hfilter
  exact hfilter

theorem scope_of_alike {c c' : Config} {gather gather' : Option Json}
    (hgather : c.gather.toJson? = .ok gather) (hgather' : c'.gather.toJson? = .ok gather')
    (h : gather.map Json.sorted = gather'.map Json.sorted) :
    (Survey.scopeFor c).Alike (Survey.scopeFor c') := by
  unfold Survey.scopeFor
  cases hc : c.gather with
  | malformed => exact absurd hgather (by simp [hc, ScopeSetting.toJson?])
  | unset =>
      rw [hc] at hgather
      obtain rfl := Except.ok.inj hgather
      cases hc' : c'.gather with
      | malformed => exact absurd hgather' (by simp [hc', ScopeSetting.toJson?])
      | unset => exact ⟨rfl, rfl⟩
      | scope s' =>
          rw [hc'] at hgather'
          obtain rfl := Except.ok.inj hgather'
          exact absurd h (by simp)
  | scope s =>
      rw [hc] at hgather
      obtain rfl := Except.ok.inj hgather
      cases hc' : c'.gather with
      | malformed => exact absurd hgather' (by simp [hc', ScopeSetting.toJson?])
      | unset =>
          rw [hc'] at hgather'
          obtain rfl := Except.ok.inj hgather'
          exact absurd h (by simp)
      | scope s' =>
          rw [hc'] at hgather'
          obtain rfl := Except.ok.inj hgather'
          have hscope : s.toJson.Alike s'.toJson := Option.some.inj h
          have hfields :
              Fields.Alike [("extensions", .arr s.extensions), ("allowlist", .arr s.allowlist)]
              [("extensions", .arr s'.extensions), ("allowlist", .arr s'.allowlist)] :=
            (Fields.alike_iff (by simp [Fields.names]) (by simp [Fields.names])).1 hscope
          exact ⟨Json.alike_arr_iff.1 (Option.some.inj (hfields "extensions")),
            Json.alike_arr_iff.1 (Option.some.inj (hfields "allowlist"))⟩

theorem parts_of_alike {c c' : Config} (hc : c.Unreserved) (hc' : c'.Unreserved)
    {gather gatherReference target reference gather' gatherReference' target'
      reference' : Option Json}
    (h : (withoutPaths (c.build gather gatherReference target reference)).Alike
      (withoutPaths (c'.build gather' gatherReference' target' reference'))) :
    gather.map Json.sorted = gather'.map Json.sorted
      ∧ target.map Json.sorted = target'.map Json.sorted ∧ c.options.Alike c'.options := by
  have hname (name : String) (hne : name ≠ targetPathKey) (hne' : name ≠ referencePathKey) := by
    have halike := h name
    rwa [get?_withoutPaths hne hne', get?_withoutPaths hne hne'] at halike
  refine ⟨?_, ?_, fun name => ?_⟩
  · have halike := hname "gatherFilesConfig" (by decide) (by decide)
    rwa [get?_build_gather hc, get?_build_gather hc'] at halike
  · have halike := hname "targetProjectResult" (by decide) (by decide)
    rwa [get?_build_target hc, get?_build_target hc'] at halike
  · by_cases hreserved : name ∈ reservedNames
    · rw [hc name hreserved, hc' name hreserved]
    · have hne : name ≠ targetPathKey := fun heq =>
        hreserved (by simp [heq, reservedNames, targetPathKey])
      have hne' : name ≠ referencePathKey := fun heq =>
        hreserved (by simp [heq, reservedNames, referencePathKey])
      have halike := hname name hne hne'
      rwa [get?_build_option _ _ _ _ hreserved, get?_build_option _ _ _ _ hreserved] at halike

end Config

end CodeSurvey
