import CodeSurvey.Proofs.Pattern.Subtree
import CodeSurvey.Proofs.Project.Below

namespace CodeSurvey

structure Scope.Admits (s : Scope) (path : String) : Prop where
  suffix : ∃ suffixes, (s.extensions.mapM fun e => Text.lowered <$> e.asText) = .ok suffixes
    ∧ ProjectFiles.hasSuffix suffixes path = true
  allowed : ∃ allowlist, s.patterns = .ok allowlist ∧ Pattern.admits allowlist path = true

namespace ProjectFiles

def vendored : List String := [".git", "node_modules", ".venv", "__pycache__", ".pytest_cache"]

def shutAtTop : List String := [".git", "node_modules", ".venv"]

def IsShut (path : String) : Prop :=
  (∃ name ∈ vendored, ∃ above below, Path.split path = above ++ name :: below ∧ above ≠ []
    ∧ below ≠ [])
  ∨ ∃ name ∈ shutAtTop, ∃ below, Path.split path = name :: below

theorem alwaysExcluded_eq : alwaysExcluded.map String.toList
    = vendored.map (fun name => Pattern.subtree name.toList) ++ shutAtTop.map String.toList := by
  decide +kernel

theorem plain_of_vendored : ∀ name ∈ vendored, Pattern.IsPlain name.toList ∧ '/' ∉ name.toList := by
  decide +kernel

theorem vendored_of_shutAtTop : ∀ name ∈ shutAtTop, name ∈ vendored := by
  decide

theorem isExcluded_iff (path : String) : isExcluded path = true ↔ IsShut path := by
  have hbraces : ∀ pattern ∈ alwaysExcluded.map String.toList, '\x7b' ∉ pattern := by
    decide +kernel
  rw [isExcluded, Pattern.matchesAny_of_no_braces hbraces, alwaysExcluded_eq, List.any_append,
    Bool.or_eq_true, IsShut]
  apply or_congr
  · simp only [List.any_map, List.any_eq_true, Function.comp_apply]
    refine exists_congr fun name => and_congr_right fun hname => ?_
    obtain ⟨hplain, hslash⟩ := plain_of_vendored name hname
    rw [Pattern.matchesOne_subtree hplain hslash, Path.split_eq_append_iff]
  · simp only [List.any_map, List.any_eq_true, Function.comp_apply]
    refine exists_congr fun name => and_congr_right fun hname => ?_
    obtain ⟨hplain, hslash⟩ := plain_of_vendored name (vendored_of_shutAtTop name hname)
    rw [Pattern.matchesOne_bare hplain hslash, Path.split_eq_cons_iff]

variable {t : FileTree} {root : Place} {s : Scope} {paths : List String}

def candidates (t : FileTree) (root : Place) (suffixes : List String) : List String :=
  ((t.filesBelow root).map Path.join).filter fun p => hasSuffix suffixes p && !isExcluded p

theorem discover_eq_ok (h : discover t root s = .ok paths) :
    ∃ suffixes, (s.extensions.mapM fun e => Text.lowered <$> e.asText) = .ok suffixes
      ∧ (candidates t root suffixes = [] ∧ paths = []
        ∨ ∃ allowlist, s.patterns = .ok allowlist
          ∧ paths = ((candidates t root suffixes).filter (Pattern.admits allowlist)).mergeSort
            pathLe) := by
  obtain ⟨suffixes, hsuffixes, h⟩ := Outcome.bind_eq_ok.1 h
  refine ⟨suffixes, hsuffixes, ?_⟩
  dsimp only at h
  split at h
  · rename_i hempty
    exact .inl ⟨List.isEmpty_iff.1 hempty, (Except.ok.inj h).symm⟩
  · obtain ⟨allowlist, hallowlist, h⟩ := Outcome.bind_eq_ok.1 h
    exact .inr ⟨allowlist, hallowlist, (Except.ok.inj h).symm⟩

theorem mem_discover_iff (h : discover t root s = .ok paths) {path : String} :
    path ∈ paths ↔ path ∈ (t.filesBelow root).map Path.join ∧ s.Admits path
      ∧ isExcluded path = false := by
  obtain ⟨suffixes, hsuffixes, h⟩ := discover_eq_ok h
  have hcandidate : path ∈ candidates t root suffixes ↔
      path ∈ (t.filesBelow root).map Path.join ∧ hasSuffix suffixes path = true
        ∧ isExcluded path = false := by
    rw [candidates, List.mem_filter, Bool.and_eq_true, Bool.not_eq_true']
  have hadmitted (hadmits : s.Admits path) : hasSuffix suffixes path = true := by
    obtain ⟨others, hothers, hsuffix⟩ := hadmits.suffix
    rw [Except.ok.inj (hsuffixes.symm.trans hothers)]
    exact hsuffix
  rcases h with ⟨hnone, rfl⟩ | ⟨allowlist, hallowlist, rfl⟩
  · constructor
    · intro hpath
      exact absurd hpath List.not_mem_nil
    · rintro ⟨hfile, hadmits, hexcluded⟩
      rw [← hnone]
      exact hcandidate.2 ⟨hfile, hadmitted hadmits, hexcluded⟩
  · rw [List.mem_mergeSort, List.mem_filter, hcandidate]
    constructor
    · rintro ⟨⟨hfile, hsuffix, hexcluded⟩, hallowed⟩
      exact ⟨hfile, ⟨⟨suffixes, hsuffixes, hsuffix⟩, allowlist, hallowlist, hallowed⟩, hexcluded⟩
    · rintro ⟨hfile, hadmits, hexcluded⟩
      obtain ⟨others, hothers, hallowed⟩ := hadmits.allowed
      obtain rfl := Except.ok.inj (hallowlist.symm.trans hothers)
      exact ⟨⟨hfile, hadmitted hadmits, hexcluded⟩, hallowed⟩

theorem nodup_paths (ht : t.Sound) (root : Place) : ((t.filesBelow root).map Path.join).Nodup := by
  refine (FileTree.nodup_filesBelow ht root).map_on fun way hway other hother hsame => ?_
  obtain ⟨hne, hnames⟩ := FileTree.areNames_of_mem_filesBelow ht hway
  obtain ⟨hne', hnames'⟩ := FileTree.areNames_of_mem_filesBelow ht hother
  exact Path.join_inj hne hnames hne' hnames' hsame

theorem increasing_of_discover (ht : t.Sound) (h : discover t root s = .ok paths) :
    paths.Pairwise (· < ·) := by
  obtain ⟨suffixes, -, hnone | ⟨allowlist, -, rfl⟩⟩ := discover_eq_ok h
  · rw [hnone.2]
    exact .nil
  · have hnodup :
        (((candidates t root suffixes).filter (Pattern.admits allowlist)).mergeSort pathLe).Nodup :=
      (List.mergeSort_perm _ pathLe).nodup_iff.2 (((nodup_paths ht root).filter _).filter _)
    refine ((pairwise_sorted _).and hnodup).imp fun {path other} h => ?_
    obtain ⟨hle, hne⟩ := h
    simp only [pathLe, decide_eq_true_eq] at hle
    by_contra hlt
    exact hne (String.le_antisymm hle hlt)

theorem not_shut_of_mem_discover (h : discover t root s = .ok paths) {path : String}
    (hpath : path ∈ paths) :
    ¬IsShut path := by
  rw [← isExcluded_iff, Bool.not_eq_true]
  exact ((mem_discover_iff h).1 hpath).2.2

theorem vendored_left_out_below_top (h : discover t root s = .ok paths) :
    (∀ path ∈ paths, ∀ name ∈ vendored, ∀ above below, Path.split path = above ++ name :: below →
      below ≠ [] →
      above = [] ∧ name ∉ shutAtTop)
    ∧ ∀ path, path ∈ paths ↔ path ∈ (t.filesBelow root).map Path.join ∧ s.Admits path
    ∧ ¬IsShut path := by
  constructor
  · intro path hpath name hname above below hsplit hbelow
    have hopen := not_shut_of_mem_discover h hpath
    have habove : above = [] := by
      by_contra habove
      exact hopen (.inl ⟨name, hname, above, below, hsplit, habove, hbelow⟩)
    subst habove
    exact ⟨rfl, fun htop => hopen (.inr ⟨name, htop, below, hsplit⟩)⟩
  · intro path
    rw [mem_discover_iff h, ← isExcluded_iff, Bool.not_eq_true]

section Example

def withCache : FileTree :=
  { entries := [(["app"], .folder), (["app", "__pycache__"], .folder),
      (["app", "__pycache__", "a.js"], .file []), (["app", "src"], .folder),
      (["app", "src", "__pycache__"], .folder), (["app", "src", "__pycache__", "b.js"], .file [])] }

def anyExtension : Scope := { extensions := [] }

theorem discover_withCache :
    discover withCache ["app"] anyExtension = .ok ["__pycache__/a.js"] := by
  decide +kernel

theorem vendored_left_out_below_top_withCache :
    discover withCache ["app"] anyExtension = .ok ["__pycache__/a.js"]
    ∧ (∀ path ∈ ["__pycache__/a.js"], ∀ name ∈ vendored, ∀ above below,
      Path.split path = above ++ name :: below →
      below ≠ [] → above = [] ∧ name ∉ shutAtTop)
    ∧ ∀ path, path ∈ ["__pycache__/a.js"] ↔
      path ∈ (withCache.filesBelow ["app"]).map Path.join ∧ anyExtension.Admits path
        ∧ ¬IsShut path :=
  ⟨discover_withCache, vendored_left_out_below_top discover_withCache⟩

theorem cache_at_top_is_discovered : ¬∀ paths, discover withCache ["app"] anyExtension = .ok paths →
    ∀ path ∈ paths, ∀ name ∈ vendored, ∀ above below, Path.split path = above ++ name :: below →
      below = [] := by
  intro h
  have hsplit : Path.split "__pycache__/a.js" = [] ++ "__pycache__" :: ["a.js"] := by decide +kernel
  have hnone :=
    h _ discover_withCache "__pycache__/a.js" List.mem_cons_self "__pycache__" (by decide) []
      ["a.js"] hsplit
  exact absurd hnone (by simp)

end Example

end ProjectFiles

end CodeSurvey
