import CodeSurvey.Proofs.Path
import CodeSurvey.Proofs.Pattern.Expansion
import CodeSurvey.Proofs.Pattern.Subtree

namespace CodeSurvey.Pattern

variable {allowlist before after parts : List String} {entry pattern path : String}

def exclusion (pattern : String) : String := "!" ++ pattern

def IsExclusion (entry : String) : Prop := ∃ pattern, entry = exclusion pattern

def Matches (pattern path : String) : Prop :=
  ∃ p ∈ expansions pattern, matchesOne p.toList path.toList = true

def Bars (entry path : String) : Prop := ∃ pattern, entry = exclusion pattern ∧ Matches pattern path

def AsksFor (entry path : String) : Prop := ¬IsExclusion entry ∧ Matches entry path

structure Admitted (allowlist : List String) (path : String) : Prop where
  unbarred : ∀ entry ∈ allowlist, ¬Bars entry path
  asked : (∀ entry ∈ allowlist, IsExclusion entry) ∨ ∃ entry ∈ allowlist, AsksFor entry path

section Entries

theorem toList_exclusion (pattern : String) :
    (exclusion pattern).toList = '!' :: pattern.toList := by
  rw [exclusion, String.toList_append]
  rfl

theorem exclusion_inj {other : String} : exclusion pattern = exclusion other ↔ pattern = other := by
  rw [← String.toList_inj, toList_exclusion, toList_exclusion, List.cons_inj_right,
    String.toList_inj]

theorem isExclusion_iff : IsExclusion entry ↔ entry.toList.head? = some '!' := by
  rw [List.head?_eq_some_iff]
  constructor
  · rintro ⟨pattern, rfl⟩
    exact ⟨pattern.toList, toList_exclusion pattern⟩
  · rintro ⟨rest, hrest⟩
    refine ⟨String.ofList rest, ?_⟩
    rw [← String.toList_inj, toList_exclusion, hrest, String.toList_ofList]

theorem bars_exclusion : Bars (exclusion pattern) path ↔ Matches pattern path := by
  constructor
  · rintro ⟨other, hother, hmatches⟩
    exact exclusion_inj.1 hother ▸ hmatches
  · exact fun h => ⟨pattern, rfl, h⟩

theorem isExclusion_of_bars (h : Bars entry path) : IsExclusion entry := by
  obtain ⟨pattern, rfl, -⟩ := h
  exact ⟨pattern, rfl⟩

theorem mem_excludes {cs : List Char} : cs ∈ excludes (allowlist.map String.toList)
      ↔ exclusion (String.ofList cs) ∈ allowlist := by
  rw [excludes, List.mem_filterMap]
  constructor
  · rintro ⟨entry, hentry, hcs⟩
    obtain ⟨text, htext, rfl⟩ := List.mem_map.1 hentry
    split at hcs
    · rename_i rest hrest
      obtain rfl := Option.some.inj hcs
      have hexclusion : text = exclusion (String.ofList rest) := by
        rw [← String.toList_inj, toList_exclusion, hrest, String.toList_ofList]
      exact hexclusion ▸ htext
    · exact absurd hcs nofun
  · intro h
    refine ⟨_, List.mem_map_of_mem h, ?_⟩
    rw [toList_exclusion, String.toList_ofList]
    rfl

theorem mem_includes {cs : List Char} :
    cs ∈ includes (allowlist.map String.toList) ↔ ∃ entry ∈ allowlist, ¬IsExclusion entry
      ∧ entry.toList = cs := by
  simp only [includes, List.mem_filter, List.mem_map, bne_iff_ne, isExclusion_iff]
  constructor
  · rintro ⟨⟨entry, hentry, rfl⟩, hhead⟩
    exact ⟨entry, hentry, hhead, rfl⟩
  · rintro ⟨entry, hentry, hhead, rfl⟩
    exact ⟨⟨entry, hentry, rfl⟩, hhead⟩

theorem matchesAny_iff {patterns : List (List Char)} :
    matchesAny patterns path.toList = true ↔ ∃ cs ∈ patterns, Matches (String.ofList cs) path := by
  simp [matchesAny, Matches, expansions]

theorem admits_iff : admits allowlist path = true ↔ Admitted allowlist path := by
  have hbarred : matchesAny (excludes (allowlist.map String.toList)) path.toList = true
      ↔ ∃ entry ∈ allowlist, Bars entry path := by
    rw [matchesAny_iff]
    constructor
    · rintro ⟨cs, hcs, hmatches⟩
      exact ⟨_, mem_excludes.1 hcs, bars_exclusion.2 hmatches⟩
    · rintro ⟨entry, hentry, pattern, rfl, hmatches⟩
      exact ⟨pattern.toList, mem_excludes.2 (by rwa [String.ofList_toList]), by
        rwa [String.ofList_toList]⟩
  have hasked : matchesAny (includes (allowlist.map String.toList)) path.toList = true
      ↔ ∃ entry ∈ allowlist, AsksFor entry path := by
    rw [matchesAny_iff]
    constructor
    · rintro ⟨cs, hcs, hmatches⟩
      obtain ⟨entry, hentry, hinclude, rfl⟩ := mem_includes.1 hcs
      rw [String.ofList_toList] at hmatches
      exact ⟨entry, hentry, hinclude, hmatches⟩
    · rintro ⟨entry, hentry, hinclude, hmatches⟩
      exact ⟨entry.toList, mem_includes.2 ⟨entry, hentry, hinclude, rfl⟩, by
        rwa [String.ofList_toList]⟩
  have hnone : (includes (allowlist.map String.toList)).isEmpty = true
      ↔ ∀ entry ∈ allowlist, IsExclusion entry := by
    rw [List.isEmpty_iff, List.eq_nil_iff_forall_not_mem]
    constructor
    · intro h entry hentry
      by_contra hinclude
      exact h entry.toList (mem_includes.2 ⟨entry, hentry, hinclude, rfl⟩)
    · intro h cs hcs
      obtain ⟨entry, hentry, hinclude, -⟩ := mem_includes.1 hcs
      exact hinclude (h entry hentry)
  rw [admits, admitsChars, Bool.and_eq_true, Bool.not_eq_true', ← Bool.not_eq_true, hbarred,
    Bool.or_eq_true, hnone, hasked]
  constructor
  · rintro ⟨hunbarred, hwanted⟩
    exact ⟨fun entry hentry hbars => hunbarred ⟨entry, hentry, hbars⟩, hwanted⟩
  · rintro ⟨hunbarred, hwanted⟩
    exact ⟨fun ⟨entry, hentry, hbars⟩ => hunbarred entry hentry hbars, hwanted⟩

end Entries

section Edits

theorem Admitted.of_same {others : List String}
    (hsame : ∀ entry, entry ∈ allowlist ↔ entry ∈ others) (h : Admitted allowlist path) :
    Admitted others path where
  unbarred entry hentry := h.unbarred entry ((hsame entry).2 hentry)
  asked := by
    refine h.asked.imp (fun hall entry hentry => hall entry ((hsame entry).2 hentry)) ?_
    rintro ⟨entry, hentry, hasks⟩
    exact ⟨entry, (hsame entry).1 hentry, hasks⟩

structure StandFor (parts : List String) (entry path : String) : Prop where
  bars : Bars entry path ↔ ∃ p ∈ parts, Bars p path
  exclusion : IsExclusion entry ↔ ∀ p ∈ parts, IsExclusion p
  asksFor : AsksFor entry path ↔ ∃ p ∈ parts, AsksFor p path

theorem admitted_replace (h : StandFor parts entry path) (before after : List String) :
    Admitted (before ++ entry :: after) path ↔ Admitted (before ++ (parts ++ after)) path := by
  have hbars : (∀ e ∈ before ++ entry :: after, ¬Bars e path)
      ↔ ∀ e ∈ before ++ (parts ++ after), ¬Bars e path := by
    simp only [List.forall_mem_append, List.forall_mem_cons, h.bars, not_exists, not_and]
  have hexclusion : (∀ e ∈ before ++ entry :: after, IsExclusion e)
      ↔ ∀ e ∈ before ++ (parts ++ after), IsExclusion e := by
    simp only [List.forall_mem_append, List.forall_mem_cons, h.exclusion]
  have hasks : (∃ e ∈ before ++ entry :: after, AsksFor e path)
      ↔ ∃ e ∈ before ++ (parts ++ after), AsksFor e path := by
    simp only [List.mem_append, List.mem_cons, or_and_right, exists_or, exists_eq_left, h.asksFor]
  constructor
  · exact fun hadmitted => ⟨hbars.1 hadmitted.unbarred, hadmitted.asked.imp hexclusion.1 hasks.1⟩
  · exact fun hadmitted => ⟨hbars.2 hadmitted.unbarred, hadmitted.asked.imp hexclusion.2 hasks.2⟩

theorem expansions_of_mem {p : String} (h : p ∈ expansions pattern) : expansions p = [p] := by
  obtain ⟨cs, hcs, rfl⟩ := List.mem_map.1 h
  rw [expansions, String.toList_ofList, expand_of_mem hcs, List.map_singleton]

theorem matches_iff_expansions : Matches pattern path
      ↔ ∃ p ∈ expansions pattern, Matches p path := by
  refine exists_congr fun p => and_congr_right fun hp => ?_
  simp [Matches, expansions_of_mem hp]

theorem standFor_exclusions (pattern path : String) :
    StandFor ((expansions pattern).map exclusion) (exclusion pattern) path where
  bars := by
    simp only [List.mem_map, exists_exists_and_eq_and, bars_exclusion]
    exact matches_iff_expansions
  exclusion := by
    refine iff_of_true ⟨pattern, rfl⟩ fun p hp => ?_
    obtain ⟨q, -, rfl⟩ := List.mem_map.1 hp
    exact ⟨q, rfl⟩
  asksFor := by
    refine iff_of_false (fun h => h.1 ⟨pattern, rfl⟩) ?_
    rintro ⟨p, hp, hinclude, -⟩
    obtain ⟨q, -, rfl⟩ := List.mem_map.1 hp
    exact hinclude ⟨q, rfl⟩

theorem standFor_expansions (hentry : ¬IsExclusion entry)
    (h : ∀ p ∈ expansions entry, ¬IsExclusion p) (path : String) :
    StandFor (expansions entry) entry path where
  bars := by
    refine iff_of_false (fun hbars => hentry (isExclusion_of_bars hbars)) ?_
    rintro ⟨p, hp, hbars⟩
    exact h p hp (isExclusion_of_bars hbars)
  exclusion := by
    refine iff_of_false hentry fun hall => ?_
    have hne : expansions entry ≠ [] := by
      rw [expansions, ne_eq, List.map_eq_nil_iff]
      exact (expands_expand entry.toList).ne_nil
    obtain ⟨p, hp⟩ := List.exists_mem_of_ne_nil _ hne
    exact h p hp (hall p hp)
  asksFor := by
    rw [AsksFor, and_iff_right hentry, matches_iff_expansions]
    exact exists_congr fun p => and_congr_right fun hp => (and_iff_right (h p hp)).symm

theorem Admitted.of_exclusion (hentry : IsExclusion entry)
    (h : Admitted (before ++ entry :: after) path) :
    Admitted (before ++ after) path := by
  have hmem {e : String} (he : e ∈ before ++ after) : e ∈ before ++ entry :: after := by
    simp only [List.mem_append, List.mem_cons] at he ⊢
    tauto
  refine ⟨fun e he => h.unbarred e (hmem he), h.asked.imp (fun hall e he => hall e (hmem he)) ?_⟩
  rintro ⟨e, he, hasks⟩
  refine ⟨e, ?_, hasks⟩
  have hne : e ≠ entry := by
    rintro rfl
    exact hasks.1 hentry
  simpa [hne] using he

theorem Admitted.with_inclusion (hentry : ¬IsExclusion entry)
    (hother : ∃ e ∈ before ++ after, ¬IsExclusion e) (h : Admitted (before ++ after) path) :
    Admitted (before ++ entry :: after) path := by
  have hmem {e : String} (he : e ∈ before ++ after) : e ∈ before ++ entry :: after := by
    simp only [List.mem_append, List.mem_cons] at he ⊢
    tauto
  refine ⟨fun e he hbars => ?_, ?_⟩
  · have hne : e ≠ entry := by
      rintro rfl
      exact hentry (isExclusion_of_bars hbars)
    exact h.unbarred e (by simpa [hne] using he) hbars
  · obtain ⟨other, hmember, hinclude⟩ := hother
    obtain ⟨e, he, hasks⟩ := h.asked.resolve_left fun hall => hinclude (hall other hmember)
    exact .inr ⟨e, hmem he, hasks⟩

end Edits

section Plain

def bareText (pattern : String) : String := String.ofList (bare pattern.toList)

theorem matches_of_expanded (h : expansions pattern = [pattern]) :
    Matches pattern path ↔ matchesOne pattern.toList path.toList = true := by
  simp [Matches, h]

theorem expansions_of_plain (h : IsPlain pattern.toList) : expansions pattern = [pattern] := by
  have hbrace : '\x7b' ∉ pattern.toList := fun hmem => absurd (h _ hmem) (by decide)
  rw [expansions, expand_of_no_brace hbrace, List.map_singleton, String.ofList_toList]

theorem matches_plain_iff (h : IsPlain pattern.toList) :
    Matches pattern path ↔ Path.split (bareText pattern) <+: Path.split path := by
  rw [matches_of_expanded (expansions_of_plain h), matchesOne_of_plain h, isAtOrBelow_iff,
    Path.split_prefix_iff, bareText, String.toList_ofList]

theorem not_matches_sibling {above below : List String} {name more : String}
    (h : IsPlain pattern.toList) (hpattern : Path.split (bareText pattern) = above ++ [name])
    (hmore : more ≠ "") (hpath : Path.split path = above ++ (name ++ more) :: below) :
    ¬Matches pattern path := by
  rw [matches_plain_iff h, hpattern, hpath, List.prefix_append_right_inj]
  intro hprefix
  obtain ⟨hname, -⟩ := List.cons_prefix_cons.1 hprefix
  exact hmore
    (String.append_right_inj name |>.1 (hname.symm.trans (String.append_empty (s := name)).symm))

theorem matches_wild_iff (hexpanded : expansions pattern = [pattern])
    (h : ¬IsPlain pattern.toList) :
    Matches pattern path ↔ globMatches pattern.toList path.toList = true := by
  rw [matches_of_expanded hexpanded, matchesOne_of_wild h]

end Plain

theorem admission_by_entries :
    (∀ (allowlist : List String) (path : String), admits allowlist path = true
      ↔ Admitted allowlist path)
    ∧ (∀ (allowlist others : List String) (path : String),
      (∀ entry, entry ∈ allowlist ↔ entry ∈ others) →
      admits allowlist path = admits others path)
    ∧ (∀ (before after : List String) (pattern path : String),
      admits (before ++ exclusion pattern :: after) path
        = admits (before ++ ((expansions pattern).map exclusion ++ after)) path)
    ∧ (∀ (before after : List String) (pattern path : String), ¬IsExclusion pattern →
      (∀ p ∈ expansions pattern, ¬IsExclusion p) →
      admits (before ++ pattern :: after) path
        = admits (before ++ (expansions pattern ++ after)) path)
    ∧ (∀ (before after : List String) (entry path : String), IsExclusion entry →
      admits (before ++ entry :: after) path = true → admits (before ++ after) path = true)
    ∧ (∀ (before after : List String) (entry path : String), ¬IsExclusion entry →
      (∃ e ∈ before ++ after, ¬IsExclusion e) → admits (before ++ after) path = true →
      admits (before ++ entry :: after) path = true)
    ∧ (∀ (pattern path : String), IsPlain pattern.toList →
      (Matches pattern path ↔ Path.split (bareText pattern) <+: Path.split path)
      ∧ ∀ above name more below, Path.split (bareText pattern) = above ++ [name] → more ≠ "" →
        Path.split path = above ++ (name ++ more) :: below → ¬Matches pattern path)
    ∧ ∀ (pattern path : String), expansions pattern = [pattern] → ¬IsPlain pattern.toList →
      (Matches pattern path ↔ globMatches pattern.toList path.toList = true) := by
  refine ⟨fun _ _ => admits_iff, ?_, ?_, ?_, ?_, ?_, ?_, fun _ _ => matches_wild_iff⟩
  · intro allowlist others path hsame
    rw [Bool.eq_iff_iff, admits_iff, admits_iff]
    exact ⟨Admitted.of_same hsame, Admitted.of_same fun entry => (hsame entry).symm⟩
  · intro before after pattern path
    rw [Bool.eq_iff_iff, admits_iff, admits_iff]
    exact admitted_replace (standFor_exclusions pattern path) before after
  · intro before after pattern path hinclude hexpansions
    rw [Bool.eq_iff_iff, admits_iff, admits_iff]
    exact admitted_replace (standFor_expansions hinclude hexpansions path) before after
  · intro before after entry path hentry h
    exact admits_iff.2 ((admits_iff.1 h).of_exclusion hentry)
  · intro before after entry path hentry hother h
    exact admits_iff.2 ((admits_iff.1 h).with_inclusion hentry hother)
  · intro pattern path hplain
    refine ⟨matches_plain_iff hplain, fun above name more below hpattern hmore hpath => ?_⟩
    exact not_matches_sibling hplain hpattern hmore hpath

section Example

def sources : List String := ["src/\x7bgen,lib\x7d", exclusion "src/\x7btmp,gen\x7d"]

theorem not_isExclusion_sources : ¬IsExclusion "src/\x7bgen,lib\x7d"
    ∧ ∀ p ∈ expansions "src/\x7bgen,lib\x7d", ¬IsExclusion p := by
  simp only [isExclusion_iff]
  decide +kernel

theorem admission_by_entries_of_sources :
    Admitted sources "src/lib/a.js" ∧ admits (sources.reverse ++ sources) "src/lib/a.js" = true
    ∧ admits ["src/\x7bgen,lib\x7d", "!src/tmp", "!src/gen"] "src/lib/a.js" = true
    ∧ admits ["src/gen", "src/lib", exclusion "src/\x7btmp,gen\x7d"] "src/lib/a.js" = true
    ∧ admits ["src/\x7bgen,lib\x7d"] "src/lib/a.js" = true
    ∧ admits ("doc" :: sources) "src/lib/a.js" = true
    ∧ Matches "/src/lib/" "src/lib/a.js" ∧ ¬Matches "/src/lib/" "src/library/a.js"
    ∧ (Matches "src/*.js" "src/lib/a.js"
      ↔ globMatches "src/*.js".toList "src/lib/a.js".toList = true) := by
  obtain ⟨hentries, hsame, hexclusions, hexpansions, hexclusion, hinclusion, hplain, hwild⟩ :=
    admission_by_entries
  obtain ⟨hinclude, hparts⟩ := not_isExclusion_sources
  have hadmits : admits sources "src/lib/a.js" = true := by decide +kernel
  have hslashes : IsPlain "/src/lib/".toList := by decide
  refine ⟨(hentries _ _).1 hadmits, ?_, ?_, ?_, ?_, ?_, ?_, ?_, ?_⟩
  · rw [← hadmits]
    exact hsame _ _ _ fun entry => by simp
  · have hunfolded := hexclusions ["src/\x7bgen,lib\x7d"] [] "src/\x7btmp,gen\x7d" "src/lib/a.js"
    have hparts : (expansions "src/\x7btmp,gen\x7d").map exclusion = ["!src/tmp", "!src/gen"] := by
      decide +kernel
    rw [hparts] at hunfolded
    exact hunfolded.symm.trans hadmits
  · have hunfolded :=
      hexpansions [] [exclusion "src/\x7btmp,gen\x7d"] _ "src/lib/a.js" hinclude hparts
    have hparts : expansions "src/\x7bgen,lib\x7d" = ["src/gen", "src/lib"] := by decide +kernel
    rw [hparts] at hunfolded
    exact hunfolded.symm.trans hadmits
  · exact hexclusion ["src/\x7bgen,lib\x7d"] [] _ _ ⟨_, rfl⟩ hadmits
  · refine hinclusion [] sources "doc" _ ?_ ⟨_, List.mem_cons_self, hinclude⟩ hadmits
    rw [isExclusion_iff]
    decide
  · rw [(hplain _ _ hslashes).1]
    decide +kernel
  · exact (hplain _ _ hslashes).2 ["src"] "lib" "rary" ["a.js"] (by decide +kernel) (by decide)
      (by decide +kernel)
  · exact hwild _ _ (by decide +kernel) (by decide)

end Example

end CodeSurvey.Pattern
