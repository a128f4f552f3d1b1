import CodeSurvey.Project.Files
import CodeSurvey.Proofs.Json.Alike
import CodeSurvey.Proofs.Outcome
import CodeSurvey.Proofs.Path
import Mathlib.Data.List.Perm.Basic
import Mathlib.Data.List.Sort

namespace CodeSurvey

namespace FileTree

structure Sound (t : FileTree) : Prop where
  distinct : (t.entries.map Prod.fst).Nodup
  names : ∀ entry ∈ t.entries, Path.AreNames entry.1

def SameBelow (t : FileTree) (root other : Place) : Prop :=
  ∀ way, t.entryAt (root ++ way) = t.entryAt (other ++ way)

def Copied (t t' : FileTree) (root other : Place) : Prop :=
  ∀ way, t.entryAt (root ++ way) = t'.entryAt (other ++ way)

def Reaches (t : FileTree) (root : Place) : Prop :=
  ∀ n ≤ root.length, t.isFolder (root.take n) = true

instance (t : FileTree) (root : Place) : Decidable (t.Reaches root) :=
  inferInstanceAs (Decidable (∀ n ≤ root.length, t.isFolder (root.take n) = true))

variable {t t' : FileTree} {root other : Place}

theorem SameBelow.copied (h : t.SameBelow root other) : Copied t t root other := h

theorem entryAt_of_octets {place : Place} {octets : List UInt8} (h : t.octets place = .ok octets) :
    t.entryAt place = some (.file octets) := by
  obtain ⟨e, he, h⟩ := Outcome.bind_eq_ok.1 h
  have hentry : t.entryAt place = some e := by
    unfold look at he
    split at he
    · exact absurd he (by simp)
    · split at he
      · rename_i e' hentry
        rw [hentry, Except.ok.inj he]
      · exact absurd he (by simp)
  cases e with
  | folder => exact absurd h (by simp)
  | file other => rw [hentry, Except.ok.inj h]

theorem reaches_of_octets {name : String} {octets : List UInt8}
    (h : t.octets (root ++ [name]) = .ok octets) :
    t.Reaches root := by
  obtain ⟨e, he, -⟩ := Outcome.bind_eq_ok.1 h
  unfold look at he
  split at he
  · exact absurd he (by simp)
  · rename_i hnone
    intro n hn
    have hmem : root.take n ∈ above (root ++ [name]) := by
      refine List.mem_map.2 ⟨n, List.mem_range.2 (by simp; omega), ?_⟩
      rw [List.take_append_of_le_length hn]
    simpa using List.find?_eq_none.1 hnone _ hmem

theorem above_append (root way : Place) :
    above (root ++ way) = above root ++ (List.range way.length).map fun n =>
      root ++ way.take n := by
  have hrange : List.range (root ++ way).length
      = List.range root.length ++ (List.range way.length).map (root.length + ·) := by
    rw [List.length_append, List.range_add]
  rw [above, hrange, List.map_append, List.map_map]
  congr 1
  · refine List.map_congr_left fun n hn => ?_
    rw [List.take_append_of_le_length (List.mem_range.1 hn).le]
  · refine List.map_congr_left fun n _ => ?_
    rw [Function.comp_apply, List.take_length_add_append]

theorem look_append (h : t.Reaches root) (way : Place) : t.look (root ++ way) =
    match (List.range way.length).find? fun n => !t.isFolder (root ++ way.take n) with
    | some n => .error (if t.isFile (root ++ way.take n) then .notFolder else .missing)
    | none =>
        match t.entryAt (root ++ way) with
        | some e => .ok e
        | none => .error .missing := by
  have habove : (above root).find? (fun p => !t.isFolder p) = none := by
    refine List.find?_eq_none.2 fun p hp => ?_
    obtain ⟨n, hn, rfl⟩ := List.mem_map.1 hp
    simp [h n (List.mem_range.1 hn).le]
  rw [look, above_append, List.find?_append, habove, Option.none_or, List.find?_map]
  simp only [Function.comp_def]
  cases (List.range way.length).find? fun n => !t.isFolder (root ++ way.take n) <;> rfl

theorem octets_append (h : Copied t t' root other) (hroot : t.Reaches root)
    (hother : t'.Reaches other) (way : Place) :
    t.octets (root ++ way) = t'.octets (other ++ way) := by
  have hlook : t.look (root ++ way) = t'.look (other ++ way) := by
    have hentry := h way
    have hfolder (n : ℕ) : t.isFolder (root ++ way.take n) = t'.isFolder (other ++ way.take n) := by
      rw [isFolder, isFolder, h]
    have hfile (n : ℕ) : t.isFile (root ++ way.take n) = t'.isFile (other ++ way.take n) := by
      rw [isFile, isFile, h]
    rw [look_append hroot, look_append hother]
    simp only [hfolder, hfile, hentry]
  rw [octets, octets, hlook]

theorem text_append (h : Copied t t' root other) (hroot : t.Reaches root)
    (hother : t'.Reaches other) (way : Place) :
    t.text (root ++ way) = t'.text (other ++ way) := by
  rw [text, text, octets_append h hroot hother]

theorem fileBelow_eq_some {place way : Place} {e : Entry} :
    (if e.isFile && isAtOrBelow root place && root.length < place.length then
      some (place.drop root.length) else none) = some way
    ↔ place = root ++ way ∧ way ≠ [] ∧ e.isFile = true := by
  constructor
  · intro h
    split at h
    · rename_i hcond
      simp only [Bool.and_eq_true, decide_eq_true_eq, isAtOrBelow,
        List.isPrefixOf_iff_prefix] at hcond
      obtain ⟨⟨hfile, rest, hrest⟩, hlength⟩ := hcond
      rw [← hrest, List.drop_left] at h
      obtain rfl := Option.some.inj h
      refine ⟨hrest.symm, ?_, hfile⟩
      rintro rfl
      rw [← hrest] at hlength
      simp at hlength
    · exact absurd h (by simp)
  · rintro ⟨hplace, hway, hfile⟩
    have hlength : 0 < way.length := List.length_pos_iff.2 hway
    rw [hplace, List.drop_left, if_pos]
    simp only [hfile, isAtOrBelow, Bool.and_eq_true, decide_eq_true_eq,
      List.isPrefixOf_iff_prefix, true_and, List.length_append]
    exact ⟨List.prefix_append _ _, by omega⟩

theorem lookup_eq_some_iff {entries : List (Place × Entry)} (h : (entries.map Prod.fst).Nodup)
    {place : Place} {e : Entry} : entries.lookup place = some e ↔ (place, e) ∈ entries := by
  induction entries with
  | nil => simp
  | cons entry rest ih =>
      obtain ⟨p, e'⟩ := entry
      obtain ⟨hp, hrest⟩ := List.nodup_cons.1 h
      by_cases hplace : place = p
      · subst hplace
        rw [List.lookup_cons_self, List.mem_cons]
        refine ⟨fun he => .inl (by rw [Option.some.inj he]), fun he => ?_⟩
        rcases he with he | he
        · rw [(Prod.mk.inj he).2]
        · exact absurd (List.mem_map.2 ⟨_, he, rfl⟩) hp
      · have hb : (place == p) = false := by simp [hplace]
        rw [List.lookup_cons, hb, List.mem_cons]
        simp only [Prod.mk.injEq, hplace, false_and, false_or]
        exact ih hrest

theorem mem_filesBelow_iff (ht : t.Sound) {way : Place} :
    way ∈ t.filesBelow root ↔ way ≠ [] ∧ t.isFile (root ++ way) = true := by
  have hentry (hway : way ≠ []) : t.entryAt (root ++ way) = t.entries.lookup (root ++ way) := by
    rw [entryAt, if_neg (by simp [hway])]
  rw [filesBelow, List.mem_filterMap]
  constructor
  · rintro ⟨⟨place, e⟩, hmem, hsome⟩
    obtain ⟨rfl, hway, hfile⟩ := fileBelow_eq_some.1 hsome
    refine ⟨hway, ?_⟩
    rw [isFile, hentry hway, (lookup_eq_some_iff ht.distinct).2 hmem]
    exact hfile
  · rintro ⟨hway, hfile⟩
    rw [isFile, hentry hway] at hfile
    obtain ⟨e, he, hfile⟩ := (Option.any_eq_true _ _).1 hfile
    exact ⟨(root ++ way, e), (lookup_eq_some_iff ht.distinct).1 he,
      fileBelow_eq_some.2 ⟨rfl, hway, hfile⟩⟩

theorem mem_filesBelow_of_octets {way : Place} (ht : t.Sound) (hroot : t.Reaches root)
    {octets : List UInt8} (h : t.octets (root ++ way) = .ok octets) : way ∈ t.filesBelow root := by
  have hentry := entryAt_of_octets h
  refine (mem_filesBelow_iff ht).2 ⟨?_, by rw [isFile, hentry]; rfl⟩
  rintro rfl
  have hfolder := hroot root.length le_rfl
  rw [List.append_nil] at hentry
  rw [List.take_length, isFolder, hentry] at hfolder
  exact absurd hfolder (by simp)

theorem nodup_filesBelow (ht : t.Sound) (root : Place) : (t.filesBelow root).Nodup := by
  have hdistinct : t.entries.Pairwise fun a b => a.1 ≠ b.1 := List.pairwise_map.1 ht.distinct
  refine hdistinct.filterMap _ fun a b hne way hway other hother => ?_
  rintro rfl
  exact hne ((fileBelow_eq_some.1 hway).1.trans (fileBelow_eq_some.1 hother).1.symm)

theorem filesBelow_perm (ht : t.Sound) (ht' : t'.Sound) (h : Copied t t' root other) :
    (t.filesBelow root).Perm (t'.filesBelow other) := by
  refine (List.perm_ext_iff_of_nodup (nodup_filesBelow ht root) (nodup_filesBelow ht' other)).2
    fun way => ?_
  rw [mem_filesBelow_iff ht, mem_filesBelow_iff ht', isFile, isFile, h]

theorem areNames_of_mem_filesBelow (ht : t.Sound) {way : Place} (h : way ∈ t.filesBelow root) :
    way ≠ [] ∧ Path.AreNames way := by
  obtain ⟨⟨place, e⟩, hmem, hsome⟩ := List.mem_filterMap.1 h
  obtain ⟨rfl, hway, -⟩ := fileBelow_eq_some.1 hsome
  refine ⟨hway, fun s hs => ht.names _ hmem s (List.mem_append_right _ hs)⟩

end FileTree

namespace Scope

structure Alike (s s' : Scope) : Prop where
  extensions : s.extensions.map Json.sorted = s'.extensions.map Json.sorted
  allowlist : s.allowlist.map Json.sorted = s'.allowlist.map Json.sorted

theorem mapM_sorted {α : Type} {f : Json → Except Fault α} (hf : ∀ v, f v.sorted = f v)
    (items : List Json) :
    (items.map Json.sorted).mapM f = items.mapM f := by
  rw [List.mapM_map]
  exact congrArg (fun g => items.mapM g) (funext hf)

theorem Alike.patterns {s s' : Scope} (h : s.Alike s') : s.patterns = s'.patterns := by
  rw [Scope.patterns, Scope.patterns, ← mapM_sorted Json.asText_sorted,
    ← mapM_sorted Json.asText_sorted s'.allowlist, h.allowlist]

theorem Alike.suffixes {s s' : Scope} (h : s.Alike s') :
    (s.extensions.mapM fun e => Text.lowered <$> e.asText) = s'.extensions.mapM fun e =>
      Text.lowered <$> e.asText := by
  have hf (v : Json) : (Text.lowered <$> v.sorted.asText) = (Text.lowered <$> v.asText) := by
    rw [Json.asText_sorted]
  rw [← mapM_sorted hf, ← mapM_sorted hf s'.extensions, h.extensions]

end Scope

namespace ProjectFiles

variable {t t' : FileTree} {root other : Place} {s s' : Scope} {current current' : String}

theorem pairwise_sorted (paths : List String) :
    (paths.mergeSort pathLe).Pairwise fun a b => pathLe a b = true := by
  apply List.pairwise_mergeSort
  · intro a b c hab hbc
    simp only [pathLe, decide_eq_true_eq] at hab hbc ⊢
    exact String.le_trans hab hbc
  · intro a b
    simp only [pathLe, Bool.or_eq_true, decide_eq_true_eq]
    exact String.le_total a b

theorem sort_eq_of_perm {paths paths' : List String} (h : paths.Perm paths') :
    paths.mergeSort pathLe = paths'.mergeSort pathLe := by
  have hperm :=
    ((List.mergeSort_perm paths pathLe).trans h).trans (List.mergeSort_perm paths' pathLe).symm
  refine hperm.eq_of_pairwise (fun a b _ _ hab hba => ?_) (pairwise_sorted paths)
    (pairwise_sorted paths')
  simp only [pathLe, decide_eq_true_eq] at hab hba
  exact String.le_antisymm hab hba

theorem discover_below (ht : t.Sound) (ht' : t'.Sound) (h : FileTree.Copied t t' root other)
    (hs : s.Alike s') :
    discover t root s = discover t' other s' := by
  have hcandidates (suffixes : List String) :
      (((t.filesBelow root).map Path.join).filter fun p =>
        hasSuffix suffixes p && !isExcluded p).Perm
        (((t'.filesBelow other).map Path.join).filter fun p =>
          hasSuffix suffixes p && !isExcluded p) :=
    ((FileTree.filesBelow_perm ht ht' h).map _).filter _
  simp only [discover, hs.suffixes, hs.patterns, (hcandidates _).isEmpty_eq,
    sort_eq_of_perm ((hcandidates _).filter _)]

structure SameFile (current current' : String) (root other : Place) (f g : SourceFile) : Prop where
  text : f.text = g.text
  name : Path.nameFromRoot current f.file ("/" ++ Path.join root)
    = Path.nameFromRoot current' g.file ("/" ++ Path.join other)

theorem mem_discover (ht : t.Sound) {paths : List String} (h : discover t root s = .ok paths) :
    ∀ p ∈ paths, ∃ way, way ≠ [] ∧ Path.AreNames way ∧ p = Path.join way := by
  obtain ⟨suffixes, -, h⟩ := Outcome.bind_eq_ok.1 h
  intro p hp
  have hfound : p ∈ (t.filesBelow root).map Path.join := by
    dsimp only at h
    split at h
    · obtain rfl := Except.ok.inj h
      exact absurd hp List.not_mem_nil
    · obtain ⟨allowlist, -, h⟩ := Outcome.bind_eq_ok.1 h
      obtain rfl := Except.ok.inj h
      exact List.mem_of_mem_filter (List.mem_of_mem_filter (List.mem_mergeSort.1 hp))
  obtain ⟨way, hway, rfl⟩ := List.mem_map.1 hfound
  obtain ⟨hne, hnames⟩ := FileTree.areNames_of_mem_filesBelow ht hway
  exact ⟨way, hne, hnames, rfl⟩

theorem readEntry_below (current current' : String) (h : FileTree.Copied t t' root other)
    (hroot : t.Reaches root) (hother : t'.Reaches other) (hn : Path.AreNames root)
    (hn' : Path.AreNames other) {paths : List String}
    (hpaths : ∀ p ∈ paths, ∃ way, way ≠ [] ∧ Path.AreNames way ∧ p = Path.join way) :
    List.Forall₂ (SameFile current current' root other) (paths.filterMap (readEntry t root))
      (paths.filterMap (readEntry t' other)) := by
  -- A file that cannot be read as text is missing from both lists.
  induction paths with
  | nil => exact .nil
  | cons p rest ih =>
      have hrest := ih fun q hq => hpaths q (List.mem_cons_of_mem _ hq)
      obtain ⟨way, hne, hnames, rfl⟩ := hpaths p List.mem_cons_self
      have htext := FileTree.text_append h hroot hother way
      simp only [List.filterMap_cons, readEntry, Path.split_join hne hnames, htext]
      cases t'.text (other ++ way) with
      | error f => exact hrest
      | ok cs =>
          refine .cons ⟨rfl, ?_⟩ hrest
          rw [Path.nameFromRoot_below current hn hnames,
            Path.nameFromRoot_below current' hn' hnames]

theorem octets_of_metaAt {withCommit : Bool} {m : ProjectMeta}
    (h : metaAt t withCommit root = .ok m) :
    ∃ octets, t.octets (root ++ [Manifest.fileName]) = .ok octets := by
  obtain ⟨manifest, hmanifest, -⟩ := Outcome.bind_eq_ok.1 h
  unfold Manifest.read at hmanifest
  cases hoctets : t.octets (root ++ [Manifest.fileName]) with
  | error f =>
      rw [hoctets] at hmanifest
      cases f <;> exact absurd hmanifest (by simp)
  | ok octets => exact ⟨octets, rfl⟩

theorem reaches_of_metaAt {withCommit : Bool} {m : ProjectMeta}
    (h : metaAt t withCommit root = .ok m) :
    t.Reaches root := by
  obtain ⟨octets, hoctets⟩ := octets_of_metaAt h
  exact FileTree.reaches_of_octets hoctets

theorem gatherOne_below (current current' : String) (ht : t.Sound) (ht' : t'.Sound)
    (h : FileTree.Copied t t' root other) (hn : Path.AreNames root) (hn' : Path.AreNames other)
    (hs : s.Alike s') {input input' : ProjectInput} (hinput : gatherOne t s root = .ok input)
    (hinput' : gatherOne t' s' other = .ok input') :
    List.Forall₂ (SameFile current current' root other) input.entries input'.entries := by
  obtain ⟨m, hm, hinput⟩ := Outcome.bind_eq_ok.1 hinput
  obtain ⟨paths, hpaths, hinput⟩ := Outcome.bind_eq_ok.1 hinput
  obtain ⟨m', hm', hinput'⟩ := Outcome.bind_eq_ok.1 hinput'
  obtain ⟨paths', hpaths', hinput'⟩ := Outcome.bind_eq_ok.1 hinput'
  obtain rfl := Except.ok.inj hinput
  obtain rfl := Except.ok.inj hinput'
  rw [← discover_below ht ht' h hs, hpaths] at hpaths'
  obtain rfl := Except.ok.inj hpaths'
  exact readEntry_below current current' h (reaches_of_metaAt hm) (reaches_of_metaAt hm') hn hn'
    (mem_discover ht hpaths)

def SameInput (current current' : String) (input input' : ProjectInput) : Prop :=
  ∃ root other, input.project.path = some (.str ("/" ++ Path.join root))
    ∧ input'.project.path = some (.str ("/" ++ Path.join other))
    ∧ List.Forall₂ (SameFile current current' root other) input.entries input'.entries

theorem path_of_gatherOne {input : ProjectInput} (h : gatherOne t s root = .ok input) :
    input.project.path = some (.str ("/" ++ Path.join root)) := by
  obtain ⟨m, hm, h⟩ := Outcome.bind_eq_ok.1 h
  obtain ⟨paths, -, h⟩ := Outcome.bind_eq_ok.1 h
  obtain ⟨manifest, -, hm⟩ := Outcome.bind_eq_ok.1 hm
  obtain rfl := Except.ok.inj h
  obtain rfl := Except.ok.inj hm
  rfl

theorem gatherOne_agree {R : ProjectMeta → ProjectMeta → Prop} (current current' : String)
    (ht : t.Sound) (ht' : t'.Sound) (h : FileTree.Copied t t' root other)
    (hmeta : Outcome.Agree R (metaAt t true root) (metaAt t' true other)) (hn : Path.AreNames root)
    (hn' : Path.AreNames other) (s : Scope) :
    Outcome.Agree (SameInput current current') (gatherOne t s root) (gatherOne t' s other) := by
  refine hmeta.bind fun m m' hm hm' _ => ?_
  refine (Outcome.Agree.of_eq (discover_below ht ht' h ⟨rfl, rfl⟩)).bind
    fun paths paths' hpaths hpaths' hsame => ?_
  subst hsame
  have hinput : gatherOne t s root = .ok ⟨m, paths.filterMap (readEntry t root)⟩ := by
    rw [gatherOne, hm, Outcome.ok_bind, hpaths]
    rfl
  have hinput' : gatherOne t' s other = .ok ⟨m', paths.filterMap (readEntry t' other)⟩ := by
    rw [gatherOne, hm', Outcome.ok_bind, hpaths']
    rfl
  refine .ok ⟨root, other, path_of_gatherOne hinput, path_of_gatherOne hinput', ?_⟩
  exact gatherOne_below current current' ht ht' h hn hn' ⟨rfl, rfl⟩ hinput hinput'

end ProjectFiles

theorem Manifest.read_below {t t' : FileTree} {root other : Place}
    (h : FileTree.Copied t t' root other) (hroot : t.Reaches root) (hother : t'.Reaches other) :
    Outcome.Agree Eq (read t root) (read t' other) := by
  have hoctets := FileTree.octets_append h hroot hother [fileName]
  unfold read
  rw [hoctets]
  cases t'.octets (other ++ [fileName]) with
  | error f => cases f <;> first | exact .error (.notFound _ _) | exact .error (.unreadable _ _ _ _)
  | ok octets =>
      simp only []
      cases Text.Utf8.decode octets with
      | error f => exact .error (.unreadable _ _ _ _)
      | ok cs =>
          simp only [parse]
          cases Json.readChars (Text.unifyLines cs) with
          | error f =>
              cases f with
              | failed expected position => exact .error (.unreadable _ _ _ _)
              | numberTooLong => exact .error (.same _)
              | nestedTooDeep => exact .error (.same _)
          | ok v =>
              cases v with
              | obj fields => exact .ok rfl
              | _ => exact .error (.notObject _ _)

structure ProjectFiles.Moved (t t' : FileTree) (root other : Place) : Prop where
  copied : FileTree.Copied t t' root other
  reaches : t.Reaches root
  reaches' : t'.Reaches other
  commit : Commit.head? t root = Commit.head? t' other
  named : (∀ manifest, Manifest.read t root = .ok manifest → (manifest.get? "name").isSome = true)
    ∨ root.getLast? = other.getLast?

namespace ProjectFiles.Moved

variable {t t' : FileTree} {root other : Place}

theorem metaAt (h : Moved t t' root other) (withCommit : Bool) :
    Outcome.Agree (fun m m' => m'.withoutPath = m.withoutPath) (metaAt t withCommit root)
      (metaAt t' withCommit other) := by
  refine (Manifest.read_below h.copied h.reaches h.reaches').bind
    fun manifest manifest' hmanifest _ hsame => ?_
  subst hsame
  refine .ok ?_
  have hname : (manifest.get? "name").getD (.str (root.getLastD ""))
      = (manifest.get? "name").getD (.str (other.getLastD "")) := by
    rcases h.named with hnamed | hlast
    · obtain ⟨name, hname⟩ := Option.isSome_iff_exists.1 (hnamed manifest hmanifest)
      rw [hname, Option.getD_some, Option.getD_some]
    · rw [List.getLastD_eq_getLast?, List.getLastD_eq_getLast?, hlast]
  simp only [Manifest.describe, ProjectMeta.withoutPath, hname, h.commit]

theorem gatherOne (h : Moved t t' root other) (current current' : String) (ht : t.Sound)
    (ht' : t'.Sound) (hn : Path.AreNames root) (hn' : Path.AreNames other) (s : Scope) :
    Outcome.Agree (SameInput current current') (gatherOne t s root) (gatherOne t' s other) :=
  gatherOne_agree current current' ht ht' h.copied (h.metaAt true) hn hn' s

end ProjectFiles.Moved

end CodeSurvey
