import CodeSurvey.Proofs.Json.SameValue
import CodeSurvey.Proofs.Run.Fields

namespace CodeSurvey

namespace Json

def SameGiven (x y : Except Fault (Option Json)) : Prop :=
  ∃ v w, x = .ok v ∧ y = .ok w ∧ Option.Rel SameValue v w

theorem sameGiven_ok_iff {v w : Option Json} : SameGiven (.ok v) (.ok w)
      ↔ Option.Rel SameValue v w := by
  constructor
  · rintro ⟨_, _, ⟨⟩, ⟨⟩, hrel⟩
    exact hrel
  · exact fun hrel => ⟨v, w, rfl, rfl, hrel⟩

theorem sameGiven_path_iff {path path' : Option String} :
    SameGiven (.ok (path.map .str)) (.ok (path'.map .str)) ↔ path = path' := by
  rw [sameGiven_ok_iff]
  cases path with
  | none => cases path' with
    | none => exact iff_of_true .none rfl
    | some s' => exact iff_of_false nofun nofun
  | some s => cases path' with
    | none => exact iff_of_false nofun nofun
    | some s' =>
        rw [Option.map_some, Option.map_some, Option.rel_some_some, sameValue_str_iff,
          Option.some.injEq]

theorem sameGiven_flag_iff {b b' : Bool} :
    SameGiven (.ok (if b then some (.bool true) else none))
      (.ok (if b' then some (.bool true) else none)) ↔ b = b' := by
  rw [sameGiven_ok_iff]
  cases b with
  | false => cases b' with
    | false => exact iff_of_true .none rfl
    | true => exact iff_of_false nofun nofun
  | true => cases b' with
    | false => exact iff_of_false nofun nofun
    | true => exact iff_of_true (.some (.bool true)) rfl

theorem rel_or_iff {v w v' w' : Option Json} (h : Option.Rel SameValue (v.or v') (w.or w')) :
    Option.Rel SameValue v w ∧ Option.Rel SameValue v' w'
      ↔ v.isSome = w.isSome ∧ Option.Rel SameValue v' w' := by
  refine and_congr_left fun hrest => ⟨isSome_of_rel, fun hsome => ?_⟩
  cases v with
  | none => cases w with
    | none => exact .none
    | some w => exact absurd hsome (by simp)
  | some v => cases w with
    | none => exact absurd hsome (by simp)
    | some w => exact h

end Json

namespace ScopeSetting

inductive Same : ScopeSetting → ScopeSetting → Prop where
  | unset : Same .unset .unset
  | scope {s s' : Scope} (extensions : List.Forall₂ Json.SameValue s.extensions s'.extensions)
      (allowlist : List.Forall₂ Json.SameValue s.allowlist s'.allowlist) :
        Same (.scope s) (.scope s')

def isSet : ScopeSetting → Bool
  | unset => false
  | _ => true

theorem isSome_toJson? {s : ScopeSetting} {v : Option Json} (h : s.toJson? = .ok v) :
    v.isSome = s.isSet := by
  cases s with
  | unset => exact Except.ok.inj h ▸ rfl
  | scope s => exact Except.ok.inj h ▸ rfl
  | malformed => exact absurd h (by simp [toJson?])

theorem sameValue_toJson_iff {s s' : Scope} : s.toJson.SameValue s'.toJson
      ↔ Same (.scope s) (.scope s') := by
  rw [Scope.toJson, Scope.toJson, Json.sameValue_obj_iff]
  constructor
  · intro h
    exact .scope (Json.sameValue_arr_iff.1 (Option.rel_some_some.1 (h "extensions")))
      (Json.sameValue_arr_iff.1 (Option.rel_some_some.1 (h "allowlist")))
  · rintro (_ | ⟨hextensions, hallowlist⟩) name
    simp only [Fields.get?, List.lookup_cons, List.lookup_nil]
    split
    · exact .some (Json.sameValue_arr_iff.2 hextensions)
    · split
      · exact .some (Json.sameValue_arr_iff.2 hallowlist)
      · exact .none

theorem same_iff {s s' : ScopeSetting} : s.Same s' ↔ Json.SameGiven s.toJson? s'.toJson? := by
  constructor
  · rintro (_ | ⟨hextensions, hallowlist⟩)
    · exact ⟨_, _, rfl, rfl, .none⟩
    · exact ⟨_, _, rfl, rfl, .some (sameValue_toJson_iff.2 (.scope hextensions hallowlist))⟩
  · rintro ⟨v, v', hv, hv', hrel⟩
    have hset : s.isSet = s'.isSet := by
      rw [← isSome_toJson? hv, ← isSome_toJson? hv', Json.isSome_of_rel hrel]
    cases s with
    | malformed => exact absurd hv (by simp [toJson?])
    | unset => cases s' with
      | unset => exact .unset
      | _ => exact absurd hset (by simp [isSet])
    | scope s => cases s' with
      | malformed => exact absurd hv' (by simp [toJson?])
      | unset => exact absurd hset (by simp [isSet])
      | scope s' =>
          obtain rfl := Except.ok.inj hv
          obtain rfl := Except.ok.inj hv'
          exact sameValue_toJson_iff.1 (Option.rel_some_some.1 hrel)

theorem isSet_orDefault (s : ScopeSetting) : s.orDefault.isSet = true := by
  cases s <;> rfl

end ScopeSetting

namespace Provided

def Same (p q : Option Provided) : Prop :=
  Option.Rel (fun p q => ∃ v w, p.portable = .ok v ∧ q.portable = .ok w ∧ v.SameValue w) p q

theorem isSome_mapM {p : Option Provided} {v : Option Json} (h : p.mapM portable = .ok v) :
    v.isSome = p.isSome := by
  cases p with
  | none => exact Except.ok.inj h ▸ rfl
  | some p =>
      obtain ⟨w, -, rfl⟩ := Outcome.map_eq_ok.1 h
      rfl

theorem same_iff {p q : Option Provided} : Same p q
      ↔ Json.SameGiven (p.mapM portable) (q.mapM portable) := by
  constructor
  · rintro (⟨v, w, hv, hw, hsame⟩ | _)
    · exact ⟨some v, some w, Outcome.map_eq_ok.2 ⟨v, hv, rfl⟩, Outcome.map_eq_ok.2 ⟨w, hw, rfl⟩,
        .some hsame⟩
    · exact ⟨none, none, rfl, rfl, .none⟩
  · rintro ⟨v, w, hv, hw, hrel⟩
    have hsome : p.isSome = q.isSome := by
      rw [← isSome_mapM hv, ← isSome_mapM hw, Json.isSome_of_rel hrel]
    cases p with
    | none => cases q with
      | none => exact .none
      | some q => exact absurd hsome (by simp)
    | some p => cases q with
      | none => exact absurd hsome (by simp)
      | some q =>
          obtain ⟨v, hp, rfl⟩ := Outcome.map_eq_ok.1 hv
          obtain ⟨w, hq, rfl⟩ := Outcome.map_eq_ok.1 hw
          exact .some ⟨v, w, hp, hq, Option.rel_some_some.1 hrel⟩

end Provided

namespace Config

def part (c : Config) (name : String) : Except Fault (Option Json) :=
  match name with
  | "targetProjectPath" => .ok (c.targetPath.map .str)
  | "referenceProjectPath" => .ok (c.referencePath.map .str)
  | "gatherFilesConfig" => c.gather.toJson?
  | "gatherFilesConfigReference" => c.gatherReference.toJson?
  | "skipCheckMatchCompatibility" => .ok (if c.skipCheck then some (.bool true) else none)
  | "targetProjectResult" => c.targetResult.mapM Provided.portable
  | "referenceProjectResult" => c.referenceResult.mapM Provided.portable
  | _ => .ok none

def isSet (c : Config) (name : String) : Bool :=
  match name with
  | "targetProjectPath" => c.targetPath.isSome
  | "referenceProjectPath" => c.referencePath.isSome
  | "gatherFilesConfig" => c.gather.isSet
  | "gatherFilesConfigReference" => c.gatherReference.isSet
  | "skipCheckMatchCompatibility" => c.skipCheck
  | "targetProjectResult" => c.targetResult.isSome
  | "referenceProjectResult" => c.referenceResult.isSome
  | _ => false

theorem part_of_unreserved (c : Config) {name : String} (h : name ∉ reservedNames) :
    c.part name = .ok none := by
  unfold part
  split
  all_goals first | rfl | exact absurd (by decide) h

theorem isSome_part {c : Config} {name : String} {v : Option Json} (h : c.part name = .ok v) :
    v.isSome = c.isSet name := by
  unfold part at h
  unfold isSet
  split at h
  · exact Except.ok.inj h ▸ Option.isSome_map
  · exact Except.ok.inj h ▸ Option.isSome_map
  · exact ScopeSetting.isSome_toJson? h
  · exact ScopeSetting.isSome_toJson? h
  · obtain rfl := Except.ok.inj h
    cases c.skipCheck <;> rfl
  · exact Provided.isSome_mapM h
  · exact Provided.isSome_mapM h
  · exact Except.ok.inj h ▸ rfl

theorem get?_toFields {c : Config} {f : Fields} (h : c.toFields = .ok f) (name : String) :
    ∃ v, c.part name = .ok v ∧ f.get? name = v.or (c.options.get? name) := by
  rw [toFields_eq] at h
  obtain ⟨gather, hgather, h⟩ := Outcome.bind_eq_ok.1 h
  obtain ⟨gatherReference, hgatherReference, h⟩ := Outcome.bind_eq_ok.1 h
  obtain ⟨target, htarget, h⟩ := Outcome.bind_eq_ok.1 h
  obtain ⟨reference, hreference, h⟩ := Outcome.bind_eq_ok.1 h
  obtain rfl := Except.ok.inj h
  by_cases hname : name ∈ reservedNames
  · simp only [reservedNames, List.mem_cons, List.not_mem_nil, or_false] at hname
    rcases hname with rfl | rfl | rfl | rfl | rfl | rfl | rfl
    · exact ⟨_, rfl, by simp [build, get?_putSome, get?_skipped, targetPathKey, referencePathKey]⟩
    · exact ⟨_, rfl, by simp [build, get?_putSome, get?_skipped, targetPathKey, referencePathKey]⟩
    · exact ⟨_, hgather, by simp [build, get?_putSome, get?_skipped, targetPathKey,
        referencePathKey]⟩
    · exact ⟨_, hgatherReference, by simp [build, get?_putSome, get?_skipped, targetPathKey,
        referencePathKey]⟩
    · refine ⟨_, rfl, ?_⟩
      simp only [build, get?_putSome, targetPathKey, referencePathKey]
      cases c.skipCheck with
      | true => simp [Fields.get?_put_self]
      | false => simp [get?_putSome]
    · exact ⟨_, htarget, by simp [build, get?_putSome, get?_skipped, targetPathKey,
        referencePathKey]⟩
    · exact ⟨_, hreference, by simp [build, get?_putSome, get?_skipped, targetPathKey,
        referencePathKey]⟩
  · exact ⟨none, part_of_unreserved c hname, by rw [get?_build_option _ _ _ _ hname,
      Option.none_or]⟩

structure Same (c c' : Config) : Prop where
  targetPath : c.targetPath = c'.targetPath
  referencePath : c.referencePath = c'.referencePath
  gather : c.gather.Same c'.gather
  gatherReference : c.gatherReference.Same c'.gatherReference
  skipCheck : c.skipCheck = c'.skipCheck
  targetResult : Provided.Same c.targetResult c'.targetResult
  referenceResult : Provided.Same c.referenceResult c'.referenceResult
  options : ∀ name, Option.Rel Json.SameValue (c.options.get? name) (c'.options.get? name)

theorem same_iff {c c' : Config} : c.Same c'
      ↔ (∀ name ∈ reservedNames, Json.SameGiven (c.part name) (c'.part name))
    ∧ ∀ name, Option.Rel Json.SameValue (c.options.get? name) (c'.options.get? name) := by
  simp only [reservedNames, List.forall_mem_cons]
  constructor
  · intro h
    exact ⟨⟨Json.sameGiven_path_iff.2 h.targetPath, Json.sameGiven_path_iff.2 h.referencePath,
      ScopeSetting.same_iff.1 h.gather, ScopeSetting.same_iff.1 h.gatherReference,
      Json.sameGiven_flag_iff.2 h.skipCheck, Provided.same_iff.1 h.targetResult,
      Provided.same_iff.1 h.referenceResult, List.forall_mem_nil _⟩, h.options⟩
  · rintro ⟨⟨htargetPath, hreferencePath, hgather, hgatherReference, hskip, htarget, hreference, -⟩,
      hoptions⟩
    exact {
      targetPath := Json.sameGiven_path_iff.1 htargetPath
      referencePath := Json.sameGiven_path_iff.1 hreferencePath
      gather := ScopeSetting.same_iff.2 hgather
      gatherReference := ScopeSetting.same_iff.2 hgatherReference
      skipCheck := Json.sameGiven_flag_iff.1 hskip
      targetResult := Provided.same_iff.2 htarget
      referenceResult := Provided.same_iff.2 hreference
      options := hoptions }

section Serialized

variable {c c' : Config} {f f' : Fields}

theorem has_toFields (hf : c.toFields = .ok f) (name : String) :
    f.has name = (c.isSet name || c.options.has name) := by
  obtain ⟨v, hv, hget⟩ := get?_toFields hf name
  rw [Fields.has, hget, Option.isSome_or, isSome_part hv, Fields.has]

variable (hf : c.toFields = .ok f) (hf' : c'.toFields = .ok f')
  (h : Json.SameValue (.obj f) (.obj f'))

include hf hf' h

theorem samePart_iff_isSet (name : String) :
    Json.SameGiven (c.part name) (c'.part name)
      ∧ Option.Rel Json.SameValue (c.options.get? name) (c'.options.get? name)
      ↔ c.isSet name = c'.isSet name
      ∧ Option.Rel Json.SameValue (c.options.get? name) (c'.options.get? name) := by
  obtain ⟨v, hv, hget⟩ := get?_toFields hf name
  obtain ⟨v', hv', hget'⟩ := get?_toFields hf' name
  have hrel := Json.sameValue_obj_iff.1 h name
  rw [hget, hget'] at hrel
  rw [hv, hv', Json.sameGiven_ok_iff, ← isSome_part hv, ← isSome_part hv']
  exact Json.rel_or_iff hrel

theorem same_option_of_unreserved {name : String} (hname : name ∉ reservedNames) :
    Option.Rel Json.SameValue (c.options.get? name) (c'.options.get? name) := by
  obtain ⟨v, hv, hget⟩ := get?_toFields hf name
  obtain ⟨v', hv', hget'⟩ := get?_toFields hf' name
  obtain rfl := Except.ok.inj ((part_of_unreserved c hname).symm.trans hv)
  obtain rfl := Except.ok.inj ((part_of_unreserved c' hname).symm.trans hv')
  rw [Option.none_or] at hget hget'
  rw [← hget, ← hget']
  exact Json.sameValue_obj_iff.1 h name

theorem same_iff_isSet : c.Same c' ↔ ∀ name ∈ reservedNames, c.isSet name = c'.isSet name
    ∧ Option.Rel Json.SameValue (c.options.get? name) (c'.options.get? name) := by
  rw [same_iff]
  constructor
  · exact fun hsame name hname => (samePart_iff_isSet hf hf' h name).1
      ⟨hsame.1 name hname, hsame.2 name⟩
  · intro hset
    refine ⟨fun name hname => ((samePart_iff_isSet hf hf' h name).2 (hset name hname)).1,
      fun name => ?_⟩
    by_cases hname : name ∈ reservedNames
    · exact (hset name hname).2
    · exact same_option_of_unreserved hf hf' h hname

theorem same_of_unreserved (hc : c.Unreserved) (hc' : c'.Unreserved) : c.Same c' := by
  refine (same_iff_isSet hf hf' h).2 fun name hname => ?_
  have hhas := Json.isSome_of_rel (Json.sameValue_obj_iff.1 h name)
  have hset := has_toFields hf name
  have hset' := has_toFields hf' name
  rw [Fields.has, Fields.has, hc name hname, Option.isSome_none, Bool.or_false] at hset
  rw [Fields.has, Fields.has, hc' name hname, Option.isSome_none, Bool.or_false] at hset'
  rw [hc name hname, hc' name hname, ← hset, ← hset']
  exact ⟨hhas, .none⟩

theorem same_gather (hset : c.gather.isSet = true) (hset' : c'.gather.isSet = true) :
    c.gather.Same c'.gather := by
  obtain ⟨v, hv, hget⟩ := get?_toFields hf "gatherFilesConfig"
  obtain ⟨v', hv', hget'⟩ := get?_toFields hf' "gatherFilesConfig"
  have hrel := Json.sameValue_obj_iff.1 h "gatherFilesConfig"
  have hsome : v.isSome = true := (isSome_part hv).trans hset
  have hsome' : v'.isSome = true := (isSome_part hv').trans hset'
  rw [hget, hget', Option.or_of_isSome hsome, Option.or_of_isSome hsome'] at hrel
  exact ScopeSetting.same_iff.2 ⟨v, v', hv, hv', hrel⟩

end Serialized

section Reading

variable {c c' : Config} {data : Fields} {name : String} {value : Json}

def nestedOptions (data : Fields) : Except Fault Fields :=
  let given := (data.get? "options").getD .null
  if given.isEmpty then pure [] else given.asFields

theorem gather_take (h : c.take name value = .ok c') (hset : c.gather.isSet = true) :
    c'.gather.isSet = true := by
  unfold take at h
  split at h
  case h_3 =>
    obtain ⟨s, -, h⟩ := Outcome.bind_eq_ok.1 h
    exact Except.ok.inj h ▸ ScopeSetting.isSet_orDefault s
  case h_4 =>
    obtain ⟨s, -, h⟩ := Outcome.bind_eq_ok.1 h
    exact Except.ok.inj h ▸ hset
  all_goals exact Except.ok.inj h ▸ hset

theorem get?_options_take (h : c.take name value = .ok c') {other : String}
    (hother : other ∈ reservedNames) :
    c'.options.get? other = c.options.get? other := by
  unfold take at h
  split at h
  case h_3 =>
    obtain ⟨s, -, h⟩ := Outcome.bind_eq_ok.1 h
    exact Except.ok.inj h ▸ rfl
  case h_4 =>
    obtain ⟨s, -, h⟩ := Outcome.bind_eq_ok.1 h
    exact Except.ok.inj h ▸ rfl
  case h_9 =>
    obtain rfl := Except.ok.inj h
    refine Fields.get?_put_of_ne _ _ ?_
    rintro rfl
    simp only [reservedNames, List.mem_cons, List.not_mem_nil, or_false] at hother
    rcases hother with rfl | rfl | rfl | rfl | rfl | rfl | rfl
    all_goals contradiction
  all_goals exact Except.ok.inj h ▸ rfl

theorem ofFields_eq (data : Fields) : ofFields data = (do
    let options ← nestedOptions data
    data.foldlM (fun c field => c.take field.1 field.2) { options }) := by
  unfold ofFields nestedOptions
  simp only []
  split
  · rfl
  · rfl

theorem read_of_ofFields (h : ofFields data = .ok c) :
    c.gather.isSet = true ∧ ∃ given, nestedOptions data = .ok given
    ∧ ∀ name ∈ reservedNames, c.options.get? name = given.get? name := by
  rw [ofFields_eq] at h
  obtain ⟨given, hgiven, h⟩ := Outcome.bind_eq_ok.1 h
  have hkept := Outcome.foldlM_preserves
    (fun c => c.gather.isSet = true ∧ ∀ name ∈ reservedNames, c.options.get? name = given.get? name)
    (fun c field _ c' hkept htake => ⟨gather_take htake hkept.1, fun name hname =>
      (get?_options_take htake hname).trans (hkept.2 name hname)⟩) ⟨rfl, fun _ _ => rfl⟩ h
  exact ⟨hkept.1, given, hgiven, hkept.2⟩

def NestsNoField (data : Fields) : Prop :=
  ∀ given, nestedOptions data = .ok given → ∀ name ∈ reservedNames, given.get? name = none

theorem unreserved_of_nestsNoField (h : ofFields data = .ok c) (hnested : NestsNoField data) :
    c.Unreserved := by
  obtain ⟨-, given, hgiven, hsame⟩ := read_of_ofFields h
  exact fun name hname => (hsame name hname).trans (hnested given hgiven name hname)

end Reading

theorem serialized_settles_fields_unless_nested {data data' : Fields} {c c' : Config}
    {f f' : Fields} (hc : ofFields data = .ok c) (hc' : ofFields data' = .ok c')
    (hf : c.toFields = .ok f) (hf' : c'.toFields = .ok f') (h : Json.SameValue (.obj f) (.obj f')) :
    c.gather.Same c'.gather
      ∧ (∀ name ∉ reservedNames,
        Option.Rel Json.SameValue (c.options.get? name) (c'.options.get? name))
      ∧ (∀ name ∈ reservedNames, f.has name = (c.isSet name || c.options.has name))
      ∧ (c.Same c' ↔ ∀ name ∈ reservedNames, c.isSet name = c'.isSet name
        ∧ Option.Rel Json.SameValue (c.options.get? name) (c'.options.get? name))
      ∧ (NestsNoField data → NestsNoField data' → c.Same c') := by
  refine ⟨same_gather hf hf' h (read_of_ofFields hc).1 (read_of_ofFields hc').1, ?_, ?_,
    same_iff_isSet hf hf' h, ?_⟩
  · exact fun name hname => same_option_of_unreserved hf hf' h hname
  · exact fun name _ => has_toFields hf name
  · exact fun hnested hnested' =>
      same_of_unreserved hf hf' h (unreserved_of_nestsNoField hc hnested)
      (unreserved_of_nestsNoField hc' hnested')

section Example

def flatMapping :
    Fields := [("depth", .int 1), ("targetProjectPath", .str "/app"), ("strict", .bool true)]

def nestedMapping : Fields :=
  [("options", .obj [("strict", .bool true), ("depth", .int 1)]),
   ("targetProjectPath", .str "/app")]

theorem nestsNoField_flatMapping : NestsNoField flatMapping := by
  rintro given hgiven
  obtain rfl := Except.ok.inj hgiven
  exact fun _ _ => rfl

theorem nestsNoField_nestedMapping : NestsNoField nestedMapping := by
  rintro given hgiven
  obtain rfl := Except.ok.inj hgiven
  decide

def flatConfig : Config :=
  { targetPath := some "/app", options := [("depth", .int 1), ("strict", .bool true)] }

def nestedConfig : Config :=
  { targetPath := some "/app", options := [("strict", .bool true), ("depth", .int 1)] }

def settingsOfApp :
    Fields := [("targetProjectPath", .str "/app"), ("gatherFilesConfig", ({} : Scope).toJson)]

theorem serialized_settles_fields_of_flatMapping :
    ofFields flatMapping = .ok flatConfig ∧ ofFields nestedMapping = .ok nestedConfig
    ∧ flatConfig.toFields = .ok (flatConfig.options ++ settingsOfApp)
    ∧ nestedConfig.toFields = .ok (nestedConfig.options ++ settingsOfApp)
    ∧ Json.SameValue (.obj (flatConfig.options ++ settingsOfApp))
      (.obj (nestedConfig.options ++ settingsOfApp))
    ∧ NestsNoField flatMapping ∧ NestsNoField nestedMapping
    ∧ flatConfig.gather.Same nestedConfig.gather ∧ flatConfig.Same nestedConfig := by
  have hflat : ofFields flatMapping = .ok flatConfig := rfl
  have hnested : ofFields nestedMapping = .ok nestedConfig := rfl
  have hsame : Json.SameValue (.obj (flatConfig.options ++ settingsOfApp))
      (.obj (nestedConfig.options ++ settingsOfApp)) :=
    Json.sameValue_of_perm (by decide) (.swap _ _ _)
  obtain ⟨hgather, -, -, -, hplain⟩ :=
    serialized_settles_fields_unless_nested hflat hnested rfl rfl hsame
  exact ⟨hflat, hnested, rfl, rfl, hsame, nestsNoField_flatMapping,
    nestsNoField_nestedMapping, hgather, hplain nestsNoField_flatMapping nestsNoField_nestedMapping⟩

def nestedSkip : Fields := [("options", .obj [("skipCheckMatchCompatibility", .bool true)])]

def plainSkip : Fields := [("skipCheckMatchCompatibility", .bool true)]

theorem nested_option_passes_for_skipCheck : ∃ c c' f f', ofFields nestedSkip = .ok c
      ∧ ofFields plainSkip = .ok c'
    ∧ c.toFields = .ok f ∧ c'.toFields = .ok f' ∧ Json.SameValue (.obj f) (.obj f')
    ∧ c.skipCheck = false ∧ c'.skipCheck = true ∧ c.options.has "skipCheckMatchCompatibility" = true
    ∧ c'.options.has "skipCheckMatchCompatibility" = false := by
  refine ⟨_, _, _, _, rfl, rfl, rfl, rfl, ?_, rfl, rfl, rfl, rfl⟩
  exact Json.sameValue_of_perm (by decide) (.swap _ _ _)

end Example

end Config

end CodeSurvey
