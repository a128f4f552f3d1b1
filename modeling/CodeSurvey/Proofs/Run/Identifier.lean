import CodeSurvey.Proofs.Json.SameValue
import CodeSurvey.Proofs.Run.Alike

namespace CodeSurvey

namespace Digest

def hexDigits : List Char := "0123456789abcdef".toList

theorem mem_hexDigits_digitChar : ∀ n < 16, n.digitChar ∈ hexDigits := by decide

theorem hexDigits_of_mem_toDigits {n : Nat} {c : Char} (h : c ∈ Nat.toDigits 16 n) :
    c ∈ hexDigits := by
  induction n using Nat.strongRecOn with
  | ind n ih =>
      rw [Nat.toDigits_eq_if (by decide)] at h
      split at h
      · rename_i hn
        rw [List.mem_singleton.1 h]
        exact mem_hexDigits_digitChar n hn
      · rename_i hn
        rcases List.mem_append.1 h with h | h
        · exact ih (n / 16) (by omega) h
        · rw [List.mem_singleton.1 h]
          exact mem_hexDigits_digitChar _ (Nat.mod_lt n (by decide))

theorem hexDigits_of_mem_sha1 {octets : List UInt8} {c : Char} (h : c ∈ sha1 octets) :
    c ∈ hexDigits := by
  obtain ⟨word, -, hword⟩ := List.mem_flatMap.1 h
  rcases List.mem_append.1 hword with hzero | hdigit
  · rw [(List.mem_replicate.1 hzero).2]
    decide
  · exact hexDigits_of_mem_toDigits hdigit

end Digest

namespace ProjectMeta

structure Same (m m' : ProjectMeta) : Prop where
  name : m.name = m'.name
  version : m.version = m'.version
  commit : Option.Rel Json.SameValue (m.commit.filter fun c => !c.isEmpty)
    (m'.commit.filter fun c => !c.isEmpty)

variable {m m' : ProjectMeta}

theorem sortedFields_withoutPath (m : ProjectMeta) :
    Json.sortedFields m.withoutPath.toFields = [("name", .str m.name), ("version", .str m.version)]
      ++ (((m.commit.filter fun c => !c.isEmpty).map Json.sorted).map
        (Prod.mk "commitHash")).toList := by
  obtain ⟨name, version, path, commit⟩ := m
  cases commit with
  | none => rfl
  | some c =>
      cases hc : c.isEmpty with
      | true =>
          simp only [withoutPath, toFields, hc, Option.filter, Bool.not_true]
          rfl
      | false =>
          simp only [withoutPath, toFields, hc, Option.filter, Bool.not_false]
          rfl

theorem proper_commit (hm : m.Proper) : ∀ c ∈ m.commit.filter fun c => !c.isEmpty, c.Proper :=
  fun c hc => hm.commit c (Option.filter_eq_some_iff.1 hc).1

theorem alike_iff_same (hm : m.Proper) (hm' : m'.Proper) :
    m.withoutPath.toJson.Alike m'.withoutPath.toJson ↔ m.Same m' := by
  have hcommit := Json.option_sameValue_iff (proper_commit hm) (proper_commit hm')
  constructor
  · intro h
    exact ⟨name_of_alike hm hm' h, version_of_alike hm hm' h, hcommit.2 (commit_of_alike hm hm' h)⟩
  · intro h
    have hfields : Json.sortedFields m.withoutPath.toFields
        = Json.sortedFields m'.withoutPath.toFields := by
      rw [sortedFields_withoutPath, sortedFields_withoutPath, h.name, h.version, hcommit.1 h.commit]
    simp only [Json.Alike, toJson, Json.sorted, hfields]

end ProjectMeta

namespace Identity

section Spelling

theorem isSafe_of_mem_sanitize {cs : List Char} {c : Char} (h : c ∈ sanitize cs) :
    isSafe c = true := by
  fun_induction sanitize cs with
  | case1 => exact absurd h List.not_mem_nil
  | case2 d rest hd ih =>
      rcases List.mem_cons.1 h with rfl | h
      · exact hd
      · exact ih h
  | case3 d hd e rest he ih =>
      rcases List.mem_cons.1 h with rfl | h
      · decide
      · exact ih h
  | case4 d hd e rest he ih => exact ih h
  | case5 d hd =>
      rw [List.mem_singleton.1 h]
      decide

theorem mem_of_mem_stripHyphens {cs : List Char} {c : Char} (h : c ∈ stripHyphens cs) : c ∈ cs := by
  have hfront := (List.dropWhile_suffix _).subset (List.mem_reverse.1 h)
  exact (List.dropWhile_suffix _).subset (List.mem_reverse.1 hfront)

theorem isSafe_of_mem_orElse {cs : List Char} {default : String} (hcs : ∀ c ∈ cs, isSafe c = true)
    (hdefault : ∀ c ∈ default.toList, isSafe c = true) :
    ∀ c ∈ orElse cs default, isSafe c = true := by
  unfold orElse
  split
  · exact hdefault
  · exact hcs

theorem isSafe_of_all {cs : List Char} (h : cs.all isSafe = true) : ∀ c ∈ cs, isSafe c = true :=
  List.all_eq_true.1 h

theorem isSafe_or_plus_of_all {cs : List Char} (h : cs.all (fun c => isSafe c || c == '+') = true) :
    ∀ c ∈ cs, isSafe c = true ∨ c = '+' := by
  intro c hc
  simpa using List.all_eq_true.1 h c hc

theorem isSafe_of_mem_segment {m : ProjectMeta} {c : Char} (h : c ∈ segment m) :
    isSafe c = true := by
  rcases List.mem_append.1 h with h | h
  · exact isSafe_of_mem_orElse (fun c hc => isSafe_of_mem_sanitize (mem_of_mem_stripHyphens hc))
      (isSafe_of_all (by decide)) c h
  · rcases List.mem_cons.1 h with rfl | h
    · decide
    · exact isSafe_of_mem_orElse (fun c hc => isSafe_of_mem_sanitize hc)
        (isSafe_of_all (by decide)) c h

theorem mem_label {target reference : Option ProjectMeta} {c : Char}
    (h : c ∈ label target reference) :
    c ∈ "unknown_+_".toList ∨ ∃ m, c ∈ segment m := by
  have hplus : c ∈ "_+_".toList → c ∈ "unknown_+_".toList := List.mem_append_right "unknown".toList
  cases target with
  | none =>
      cases reference with
      | none => exact .inl (List.mem_append_left "_+_".toList h)
      | some m =>
          rcases List.mem_append.1 h with h | h
          · exact .inl h
          · exact .inr ⟨m, h⟩
  | some m =>
      cases reference with
      | none => exact .inr ⟨m, h⟩
      | some m' =>
          rcases List.mem_append.1 h with h | h
          · rcases List.mem_append.1 h with h | h
            · exact .inr ⟨m, h⟩
            · exact .inl (hplus h)
          · exact .inr ⟨m', h⟩

theorem isSafe_of_mem_label {target reference : Option ProjectMeta} {c : Char}
    (h : c ∈ label target reference) :
    isSafe c = true ∨ c = '+' := by
  rcases mem_label h with h | ⟨m, h⟩
  · exact isSafe_or_plus_of_all (by decide) c h
  · exact .inl (isSafe_of_mem_segment h)

theorem hexDigits_of_mem_digest {seed : Json} {c : Char} (h : c ∈ digest seed) :
    c ∈ Digest.hexDigits :=
  Digest.hexDigits_of_mem_sha1 (List.mem_of_mem_take h)

structure Spelled (identifier : String) (seed : Json) : Prop where
  characters : ∀ c ∈ identifier.toList, isSafe c = true ∨ c = '+'
  ending : ∃ lead, identifier.toList = lead ++ "__".toList ++ digest seed
  length : (digest seed).length = 16
  digits : ∀ c ∈ digest seed, c ∈ Digest.hexDigits

theorem spelled_ofSeed (target reference : Option ProjectMeta) (seed : Json) :
    Spelled (ofSeed target reference seed) seed := by
  have hchars : (ofSeed target reference seed).toList
      = label target reference ++ "__".toList ++ digest seed :=
    String.toList_ofList
  refine ⟨?_, ⟨_, hchars⟩, length_digest seed, fun c hc => hexDigits_of_mem_digest hc⟩
  intro c hc
  rw [hchars] at hc
  rcases List.mem_append.1 hc with hc | hc
  · rcases List.mem_append.1 hc with hc | hc
    · exact isSafe_of_mem_label hc
    · exact isSafe_or_plus_of_all (by decide) c hc
  · exact isSafe_or_plus_of_all (by decide) c (hexDigits_of_mem_digest hc)

end Spelling

section Seeds

variable {target reference target' reference' : Option ProjectMeta} {fields fields' : Fields}

theorem projectSeed_alike_iff (htarget : ∀ m ∈ target, m.Proper)
    (htarget' : ∀ m ∈ target', m.Proper) :
    (projectSeed target).Alike (projectSeed target')
      ↔ Option.Rel ProjectMeta.Same target target' := by
  constructor
  · intro h
    rcases projects_of_alike h with ⟨rfl, rfl⟩ | ⟨m, m', rfl, rfl, halike⟩
    · exact .none
    · exact .some ((ProjectMeta.alike_iff_same (htarget m rfl) (htarget' m' rfl)).1 halike)
  · intro h
    cases h with
    | none => exact Json.Alike.refl _
    | @some m m' hsame =>
        exact (ProjectMeta.alike_iff_same (htarget m rfl) (htarget' m' rfl)).2 hsame

theorem alike_seed {v v' w w' u u' : Json} (hv : v.Alike v') (hw : w.Alike w') (hu : u.Alike u') :
    Json.Alike (.obj [("targetProject", v), ("referenceProject", w), ("analyzerConfig", u)])
      (.obj [("targetProject", v'), ("referenceProject", w'), ("analyzerConfig", u')]) := by
  have hsorted : v.sorted = v'.sorted := hv
  have hsorted' : w.sorted = w'.sorted := hw
  have hsorted'' : u.sorted = u'.sorted := hu
  simp only [Json.Alike, Json.sorted, Json.sortedFields, hsorted, hsorted', hsorted'']

theorem SameSeed.canonical (hfields : fields.Proper) (hfields' : fields'.Proper)
    (h : SameSeed target reference target' reference' fields fields') :
    (seedOf target reference fields).canonical = (seedOf target' reference' fields').canonical := by
  have hconfiguration :
      Json.Alike (.obj (Config.withoutPaths fields)) (.obj (Config.withoutPaths fields')) :=
    (Fields.alike_iff (hfields.filter _).nodup (hfields'.filter _).nodup).2 h.configuration
  have halike : (seedOf target reference fields).Alike (seedOf target' reference' fields') :=
    alike_seed h.target h.reference hconfiguration
  exact congrArg (Json.textWith .tight) halike

theorem label_of_same (htarget : Option.Rel ProjectMeta.Same target target')
    (hreference : Option.Rel ProjectMeta.Same reference reference') :
    label target reference = label target' reference' := by
  have hsegment {m m' : ProjectMeta} (h : m.Same m') : segment m = segment m' := by
    rw [segment, segment, h.name, h.version]
  cases htarget with
  | none =>
      cases hreference with
      | none => rfl
      | some hr => exact congrArg ("unknown".toList ++ "_+_".toList ++ ·) (hsegment hr)
  | some ht =>
      cases hreference with
      | none => exact hsegment ht
      | some hr => exact congrArg₂ (· ++ "_+_".toList ++ ·) (hsegment ht) (hsegment hr)

end Seeds

structure Subject where
  target : Option ProjectMeta
  reference : Option ProjectMeta
  config : Config

namespace Subject

variable {s t : Subject}

def seed (s : Subject) : Except Fault Json := Identity.seed s.target s.reference s.config

def identifier (s : Subject) : Except Fault String := derive s.target s.reference s.config

structure Proper (s : Subject) : Prop where
  target : ∀ m ∈ s.target, m.Proper
  reference : ∀ m ∈ s.reference, m.Proper
  config : s.config.Proper

structure Same (s t : Subject) : Prop where
  target : Option.Rel ProjectMeta.Same s.target t.target
  reference : Option.Rel ProjectMeta.Same s.reference t.reference
  settings : ∃ fields fields', s.config.toFields = .ok fields ∧ t.config.toFields = .ok fields'
    ∧ Json.SameValue (.obj (Config.withoutPaths fields)) (.obj (Config.withoutPaths fields'))

structure Moved (s t : Subject) : Prop where
  target : t.target.map (·.withoutPath) = s.target.map (·.withoutPath)
  reference : t.reference.map (·.withoutPath) = s.reference.map (·.withoutPath)
  config : ∃ targetPath referencePath, t.config = { s.config with targetPath, referencePath }

def NoClash (s t : Subject) : Prop :=
  ∀ v w, s.seed = .ok v → t.seed = .ok w → digest v = digest w → v.canonical = w.canonical

theorem identifier_eq_ok_iff {identifier : String} : s.identifier = .ok identifier ↔
    ∃ fields, s.config.toFields = .ok fields
      ∧ ofSeed s.target s.reference (seedOf s.target s.reference fields) = identifier := by
  rw [Subject.identifier, derive, Identity.seed]
  cases s.config.toFields with
  | error f => simp
  | ok fields => simp

theorem seed_of_toFields {fields : Fields} (h : s.config.toFields = .ok fields) :
    s.seed = .ok (seedOf s.target s.reference fields) := by
  rw [Subject.seed, Identity.seed, h]
  rfl

theorem sameSeed_iff {fields fields' : Fields} (hs : s.Proper) (ht : t.Proper)
    (hfields : s.config.toFields = .ok fields) (hfields' : t.config.toFields = .ok fields') :
    SameSeed s.target s.reference t.target t.reference fields fields' ↔ s.Same t := by
  have hproper : (Config.withoutPaths fields).Proper :=
    (Config.proper_toFields hs.config hfields).filter _
  have hproper' : (Config.withoutPaths fields').Proper :=
    (Config.proper_toFields ht.config hfields').filter _
  have hsettings :=
    (Json.sameValue_iff_alike hproper hproper').trans
      (Fields.alike_iff hproper.nodup hproper'.nodup)
  have htarget := projectSeed_alike_iff hs.target ht.target
  have hreference := projectSeed_alike_iff hs.reference ht.reference
  constructor
  · intro h
    exact ⟨htarget.1 h.target, hreference.1 h.reference, fields, fields', hfields, hfields',
      hsettings.2 h.configuration⟩
  · rintro ⟨hsame, hsame', f, f', hf, hf', hvalue⟩
    obtain rfl := Except.ok.inj (hfields.symm.trans hf)
    obtain rfl := Except.ok.inj (hfields'.symm.trans hf')
    exact ⟨htarget.2 hsame, hreference.2 hsame', hsettings.1 hvalue⟩

theorem same_of_canonical (hs : s.Proper) (ht : t.Proper) {v w : Json} (hv : s.seed = .ok v)
    (hw : t.seed = .ok w) (h : v.canonical = w.canonical) : s.Same t := by
  obtain ⟨fields, hfields, hv⟩ := Outcome.bind_eq_ok.1 hv
  obtain ⟨fields', hfields', hw⟩ := Outcome.bind_eq_ok.1 hw
  obtain rfl := Except.ok.inj hv
  obtain rfl := Except.ok.inj hw
  apply (sameSeed_iff hs ht hfields hfields').1
  exact sameSeed_of_canonical hs.target hs.reference ht.target ht.reference
    (Config.proper_toFields hs.config hfields)
    (Config.proper_toFields ht.config hfields') h

theorem same_of_identifier (hs : s.Proper) (ht : t.Proper) (hclash : NoClash s t)
    {identifier : String} (h : s.identifier = .ok identifier) (h' : t.identifier = .ok identifier) :
    s.Same t := by
  obtain ⟨fields, hfields, hderived⟩ := identifier_eq_ok_iff.1 h
  obtain ⟨fields', hfields', hderived'⟩ := identifier_eq_ok_iff.1 h'
  have hdigest := digest_of_ofSeed (hderived.trans hderived'.symm)
  have hseed := seed_of_toFields hfields
  have hseed' := seed_of_toFields hfields'
  exact same_of_canonical hs ht hseed hseed' (hclash _ _ hseed hseed' hdigest)

theorem canonical_of_same (hs : s.Proper) (ht : t.Proper) (h : s.Same t) {v w : Json}
    (hv : s.seed = .ok v) (hw : t.seed = .ok w) : v.canonical = w.canonical := by
  obtain ⟨fields, fields', hfields, hfields', -⟩ := h.settings
  obtain rfl := Except.ok.inj (hv.symm.trans (seed_of_toFields hfields))
  obtain rfl := Except.ok.inj (hw.symm.trans (seed_of_toFields hfields'))
  apply SameSeed.canonical (Config.proper_toFields hs.config hfields)
    (Config.proper_toFields ht.config hfields')
  exact (sameSeed_iff hs ht hfields hfields').2 h

theorem identifier_of_same (hs : s.Proper) (ht : t.Proper) (h : s.Same t) :
    ∃ identifier, s.identifier = .ok identifier ∧ t.identifier = .ok identifier := by
  obtain ⟨fields, fields', hfields, hfields', -⟩ := h.settings
  have hcanonical :=
    canonical_of_same hs ht h (seed_of_toFields hfields) (seed_of_toFields hfields')
  refine ⟨_, identifier_eq_ok_iff.2 ⟨fields, hfields, rfl⟩,
    identifier_eq_ok_iff.2 ⟨fields', hfields', ?_⟩⟩
  rw [ofSeed, ofSeed, label_of_same h.target h.reference, digest, digest, hcanonical]

theorem seedOf_congr {target reference target' reference' : Option ProjectMeta}
    (htarget : target'.map (·.withoutPath) = target.map (·.withoutPath))
    (hreference : reference'.map (·.withoutPath) = reference.map (·.withoutPath))
    (fields : Fields) :
    seedOf target' reference' fields = seedOf target reference fields := by
  have hkept (target reference : Option ProjectMeta) :
      seedOf (target.map (·.withoutPath)) (reference.map (·.withoutPath)) fields
        = seedOf target reference fields := by
    cases target <;> cases reference <;> rfl
  rw [← hkept, htarget, hreference, hkept]

theorem label_congr {target reference target' reference' : Option ProjectMeta}
    (htarget : target'.map (·.withoutPath) = target.map (·.withoutPath))
    (hreference : reference'.map (·.withoutPath) = reference.map (·.withoutPath)) :
    Identity.label target' reference' = Identity.label target reference := by
  have hkept (target reference : Option ProjectMeta) :
      Identity.label (target.map (·.withoutPath)) (reference.map (·.withoutPath))
        = Identity.label target reference := by
    cases target <;> cases reference <;> rfl
  rw [← hkept, htarget, hreference, hkept]

theorem seed_of_moved (h : s.Moved t) : t.seed = s.seed := by
  obtain ⟨targetPath, referencePath, hconfig⟩ := h.config
  rw [Subject.seed, Subject.seed, seed_eq, seed_eq, hconfig, Config.settings_of_paths]
  exact congrArg (· <$> s.config.settings) (funext (seedOf_congr h.target h.reference))

theorem identifier_of_moved (h : s.Moved t) : t.identifier = s.identifier := by
  have hseed := seed_of_moved h
  rw [Subject.seed, Subject.seed] at hseed
  rw [Subject.identifier, Subject.identifier, derive, derive, hseed]
  simp only [ofSeed, label_congr h.target h.reference]

theorem exists_identifier_iff : (∃ identifier, s.identifier = .ok identifier)
      ↔ ∃ fields, s.config.toFields = .ok fields := by
  constructor
  · rintro ⟨identifier, h⟩
    obtain ⟨fields, hfields, -⟩ := identifier_eq_ok_iff.1 h
    exact ⟨fields, hfields⟩
  · rintro ⟨fields, hfields⟩
    exact ⟨_, identifier_eq_ok_iff.2 ⟨fields, hfields, rfl⟩⟩

theorem identifier_is_identity (s t : Subject) (hs : s.Proper) (ht : t.Proper) :
    (s.Same t → ∃ identifier, s.identifier = .ok identifier ∧ t.identifier = .ok identifier)
    ∧ (NoClash s t → ∀ identifier, s.identifier = .ok identifier →
      t.identifier = .ok identifier → s.Same t)
    ∧ (∀ moved, s.Moved moved → moved.identifier = s.identifier)
    ∧ ((∃ identifier, s.identifier = .ok identifier) ↔ ∃ fields, s.config.toFields = .ok fields)
    ∧ ∀ identifier, s.identifier = .ok identifier → ∃ seed, s.seed = .ok seed
    ∧ Spelled identifier seed := by
  refine ⟨identifier_of_same hs ht, ?_, fun moved => identifier_of_moved, exists_identifier_iff, ?_⟩
  · intro hclash identifier h h'
    exact same_of_identifier hs ht hclash h h'
  · intro identifier h
    obtain ⟨fields, hfields, rfl⟩ := identifier_eq_ok_iff.1 h
    exact ⟨_, seed_of_toFields hfields, spelled_ofSeed _ _ _⟩

section Example

def acme (path commit : Option Json) (targetPath : String) (rules : Fields) : Subject :=
  { target := some { name := "@acme/app", version := "1.0.0", path, commit }
    reference := none
    config := { targetPath := some targetPath, options := [("rules", .obj rules)] } }

theorem proper_acme {path commit : Option Json} (targetPath : String) {rules : Fields}
    (hpath : ∀ v ∈ path, v.Proper) (hcommit : ∀ v ∈ commit, v.Proper) (h : rules.Proper) :
    (acme path commit targetPath rules).Proper where
  target m hm := Option.some.inj hm ▸ ⟨hpath, hcommit⟩
  reference m hm := absurd hm (by simp [acme])
  config := {
    gather := fun s hs => by
      obtain rfl := ScopeSetting.scope.inj hs
      exact ⟨fun v hv => List.mem_singleton.1 hv ▸ .str _, fun _ h => absurd h List.not_mem_nil⟩
    gatherReference := fun s hs => absurd hs (by simp [acme])
    targetResult := fun p hp => absurd hp (by simp [acme])
    referenceResult := fun p hp => absurd hp (by simp [acme])
    options := Fields.proper_cons List.not_mem_nil h Fields.proper_nil }

def atWork : Subject :=
  acme (some (.str "/work/app")) (some (.str "")) "/work/app" [("b", .int 1), ("a", .int 2)]

def atHome : Subject := acme none none "/home/app" [("a", .int 2), ("b", .int 1)]

theorem proper_atWork : atWork.Proper := by
  apply proper_acme "/work/app" (fun v hv => Option.some.inj hv ▸ .str _) (fun v hv =>
    Option.some.inj hv ▸ .str _)
  exact Fields.proper_cons (by decide) (.int 1)
    (Fields.proper_cons List.not_mem_nil (.int 2) Fields.proper_nil)

theorem proper_atHome : atHome.Proper := by
  apply proper_acme "/home/app" (fun _ h => absurd h (by simp)) (fun _ h => absurd h (by simp))
  exact Fields.proper_cons (by decide) (.int 2)
    (Fields.proper_cons List.not_mem_nil (.int 1) Fields.proper_nil)

theorem same_atWork : atWork.Same atHome := by
  have hrules :
      Json.Alike (.obj [("b", .int 1), ("a", .int 2)]) (.obj [("a", .int 2), ("b", .int 1)]) := by
    simp [Json.Alike, Json.sorted, Json.sortedFields, List.mergeSort, Json.fieldLe,
      List.MergeSort.Internal.splitInTwo]
  have hoptions : Fields.Alike atWork.config.options atHome.config.options :=
    Fields.Alike.put (f := []) (g := []) (fun _ => rfl) "rules" hrules
  have hsettings :
      Fields.Alike
        (Config.withoutPaths (atWork.config.build (some (Scope.toJson {})) none none none))
      (Config.withoutPaths (atHome.config.build (some (Scope.toJson {})) none none none)) := by
    rw [Config.withoutPaths_build, Config.withoutPaths_build]
    exact (hoptions.filter Config.isSetting).put "gatherFilesConfig" (Json.Alike.refl _)
  have hproper :
      (Config.withoutPaths (atWork.config.build (some (Scope.toJson {})) none none none)).Proper :=
    (Config.proper_toFields proper_atWork.config rfl).filter _
  have hproper' :
      (Config.withoutPaths (atHome.config.build (some (Scope.toJson {})) none none none)).Proper :=
    (Config.proper_toFields proper_atHome.config rfl).filter _
  refine ⟨.some ⟨rfl, rfl, .none⟩, .none, _, _, rfl, rfl, ?_⟩
  exact Json.sameValue_of_alike ((Fields.alike_iff hproper.nodup hproper'.nodup).2 hsettings)
    hproper hproper'

theorem noClash_atWork : NoClash atWork atHome := by
  intro v w hv hw _
  exact canonical_of_same proper_atWork proper_atHome same_atWork hv hw

theorem identifier_is_identity_of_acme : ∃ identifier seed, atWork.identifier = .ok identifier
    ∧ atHome.identifier = .ok identifier ∧ Spelled identifier seed ∧ atWork.Same atHome := by
  obtain ⟨hif, honlyIf, -, -, hspelled⟩ :=
    identifier_is_identity atWork atHome proper_atWork proper_atHome
  obtain ⟨identifier, h, h'⟩ := hif same_atWork
  obtain ⟨seed, -, hseed⟩ := hspelled identifier h
  exact ⟨identifier, seed, h, h', hseed, honlyIf noClash_atWork identifier h h'⟩

end Example

end Subject

end Identity

end CodeSurvey
