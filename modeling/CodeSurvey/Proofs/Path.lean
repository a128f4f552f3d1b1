import CodeSurvey.Path
import CodeSurvey.Proofs.Text.Pieces
import Mathlib.Data.List.Basic

namespace CodeSurvey.Path

structure IsName (s : String) : Prop where
  nonempty : s ≠ ""
  not_dot : s ≠ "."
  not_dots : s ≠ ".."
  no_slash : '/' ∉ s.toList

def AreNames (segments : List String) : Prop := ∀ s ∈ segments, IsName s

namespace AreNames

variable {segments others : List String}

theorem append (h : AreNames segments) (h' : AreNames others) : AreNames (segments ++ others) := by
  intro s hs
  rcases List.mem_append.1 hs with hs | hs
  · exact h s hs
  · exact h' s hs

end AreNames

section Split

theorem no_slash_of_mem_split {path s : String} (h : s ∈ split path) : '/' ∉ s.toList := by
  obtain ⟨cs, hcs, rfl⟩ := List.mem_map.1 h
  rw [String.toList_ofList]
  exact Text.not_mem_of_mem_pieces hcs

theorem split_join_of_no_slash {segments : List String} (hne : segments ≠ [])
    (h : ∀ s ∈ segments, '/' ∉ s.toList) :
    split (join segments) = segments := by
  have hpieces : Text.pieces '/' (Text.glue '/' (segments.map String.toList))
      = segments.map String.toList := by
    refine Text.pieces_glue (by simpa using hne) fun cs hcs => ?_
    obtain ⟨s, hs, rfl⟩ := List.mem_map.1 hcs
    exact h s hs
  rw [split, join, String.toList_ofList, hpieces, List.map_map]
  simp [Function.comp_def]

theorem split_join {segments : List String} (hne : segments ≠ []) (h : AreNames segments) :
    split (join segments) = segments :=
  split_join_of_no_slash hne fun s hs => (h s hs).no_slash

theorem join_inj {way other : List String} (hway : way ≠ []) (hnames : AreNames way)
    (hother : other ≠ []) (hnames' : AreNames other) (h : join way = join other) : way = other := by
  rw [← split_join hway hnames, h, split_join hother hnames']

theorem orDot_join {way : List String} (hway : way ≠ []) (hnames : AreNames way) :
    orDot (join way) = join way := by
  refine if_neg fun hempty => ?_
  have hsplit := split_join hway hnames
  rw [String.isEmpty_iff.1 hempty] at hsplit
  have hname : IsName "" := by
    apply hnames
    rw [← hsplit]
    exact List.mem_cons_self
  exact hname.nonempty rfl

theorem split_prefix_iff {path other : String} :
    split path <+: split other ↔ Text.pieces '/' path.toList <+: Text.pieces '/' other.toList :=
  List.prefix_map_iff_of_injective fun _ _ h => String.ofList_injective h

theorem split_append (base path : String) :
    split (base ++ "/" ++ path) = split base ++ split path := by
  have htext : (base ++ "/" ++ path).toList = base.toList ++ '/' :: path.toList := by
    rw [String.toList_append, String.toList_append, List.append_assoc]
    rfl
  rw [split, htext, Text.pieces_append, List.map_append]
  rfl

theorem split_slash (path : String) : split ("/" ++ path) = "" :: split path := by
  have hsplit := split_append "" path
  rwa [String.empty_append] at hsplit

theorem split_singleton {s : String} (h : '/' ∉ s.toList) : split s = [s] := by
  rw [split, Text.pieces_of_not_mem h, List.map_singleton, String.ofList_toList]

theorem split_eq_append_iff {path name : String} :
    (∃ above below, Text.pieces '/' path.toList = above ++ name.toList :: below ∧ above ≠ []
      ∧ below ≠ []) ↔
      ∃ above below, split path = above ++ name :: below ∧ above ≠ [] ∧ below ≠ [] := by
  have hpieces : Text.pieces '/' path.toList = (split path).map String.toList := by
    simp [split, Function.comp_def]
  rw [hpieces]
  constructor
  · rintro ⟨above, below, hsplit, habove, hbelow⟩
    obtain ⟨segments, rest, hsegments, rfl, hrest⟩ := List.map_eq_append_iff.1 hsplit
    obtain ⟨segment, rest, rfl, hsegment, rfl⟩ := List.map_eq_cons_iff.1 hrest
    obtain rfl := String.toList_injective hsegment
    exact ⟨segments, rest, hsegments, by simpa using habove, by simpa using hbelow⟩
  · rintro ⟨above, below, hsplit, habove, hbelow⟩
    exact ⟨above.map String.toList, below.map String.toList, by simp [hsplit], by
      simpa using habove, by simpa using hbelow⟩

theorem split_eq_cons_iff {path name : String} :
    (∃ below, Text.pieces '/' path.toList = name.toList :: below)
      ↔ ∃ below, split path = name :: below := by
  have hpieces : Text.pieces '/' path.toList = (split path).map String.toList := by
    simp [split, Function.comp_def]
  rw [hpieces]
  constructor
  · rintro ⟨below, hsplit⟩
    obtain ⟨segment, rest, hsegments, hsegment, rfl⟩ := List.map_eq_cons_iff.1 hsplit
    obtain rfl := String.toList_injective hsegment
    exact ⟨rest, hsegments⟩
  · rintro ⟨below, hsplit⟩
    exact ⟨below.map String.toList, by simp [hsplit]⟩

theorem mem_proper {segments : List String} {s : String} :
    s ∈ proper segments ↔ s ∈ segments ∧ s ≠ "" ∧ s ≠ "." := by
  rw [proper, List.mem_filter, Bool.and_eq_true, bne_iff_ne, bne_iff_ne]

theorem proper_of_areNames {segments : List String} (h : AreNames segments) :
    proper segments = segments := by
  refine List.filter_eq_self.2 fun s hs => ?_
  have hname := h s hs
  simp [hname.nonempty, hname.not_dot]

theorem proper_split_join {segments : List String} (h : AreNames segments) :
    proper (split ("/" ++ join segments)) = segments := by
  rw [split_slash]
  cases segments with
  | nil => rfl
  | cons s rest =>
      rw [split_join (by simp) h]
      exact proper_of_areNames h

end Split

section Join

variable {segments : List String} {name path : String}

theorem join_singleton (s : String) : join [s] = s := by
  rw [join, List.map_singleton, Text.glue, String.ofList_toList]

theorem join_append {others : List String} (hne : segments ≠ []) (hne' : others ≠ []) :
    join (segments ++ others) = join segments ++ "/" ++ join others := by
  have hmap : segments.map String.toList ≠ [] := by simpa using hne
  have hmap' : others.map String.toList ≠ [] := by simpa using hne'
  rw [← String.toList_inj]
  simp [join, Text.glue_append hmap hmap']

theorem join_ends (hne : segments ≠ []) (h : ∀ s ∈ segments, s ≠ "" ∧ '/' ∉ s.toList) :
    ∃ lead c, (join segments).toList = lead ++ [c] ∧ c ≠ '/' := by
  obtain ⟨above, s, rfl⟩ := List.eq_nil_or_concat' segments |>.resolve_left hne
  obtain ⟨hempty, hslash⟩ := h s (by simp)
  obtain ⟨front, c, hs⟩ := List.eq_nil_or_concat' s.toList |>.resolve_left (by simpa using hempty)
  have hc : c ≠ '/' := by
    rintro rfl
    exact hslash (by simp [hs])
  by_cases habove : above = []
  · exact ⟨front, c, by rw [habove, List.nil_append, join_singleton, hs], hc⟩
  · refine ⟨(join above ++ "/").toList ++ front, c, ?_, hc⟩
    rw [join_append habove (by simp), join_singleton, String.toList_append, hs, List.append_assoc]

theorem isEmpty_join (hne : segments ≠ []) (h : ∀ s ∈ segments, s ≠ "" ∧ '/' ∉ s.toList) :
    (join segments).isEmpty = false := by
  obtain ⟨lead, c, hends, -⟩ := join_ends hne h
  rw [← Bool.not_eq_true, String.isEmpty_iff, ← String.toList_eq_nil_iff, hends]
  simp

theorem parent_join (hne : segments ≠ []) (h : ∀ s ∈ segments, s ≠ "" ∧ '/' ∉ s.toList)
    (hname : '/' ∉ name.toList) :
    parent (join (segments ++ [name])) = join segments := by
  have hslash : ∀ s ∈ segments ++ [name], '/' ∉ s.toList := by
    intro s hs
    rcases List.mem_append.1 hs with hs | hs
    · exact (h s hs).2
    · exact List.mem_singleton.1 hs ▸ hname
  obtain ⟨lead, c, hends, hc⟩ := join_ends hne h
  have hkept : (join segments).toList.reverse.dropWhile (· == '/')
      = (join segments).toList.reverse := by
    rw [hends, List.reverse_append, List.reverse_singleton, List.singleton_append,
      List.dropWhile_cons, beq_false_of_ne hc, if_neg Bool.false_ne_true]
  rw [parent, split_join_of_no_slash (by simp) hslash, List.dropLast_concat, isEmpty_join hne h,
    if_neg Bool.false_ne_true, hkept, if_neg (by simp [hends]), List.reverse_reverse,
    String.ofList_toList]

theorem append_join (hne : segments ≠ []) (h : ∀ s ∈ segments, s ≠ "" ∧ '/' ∉ s.toList)
    (hpath : isAbsolute path = false) :
    append (join segments) path = join segments ++ "/" ++ path := by
  obtain ⟨lead, c, hends, hc⟩ := join_ends hne h
  rw [append, hpath, if_neg Bool.false_ne_true, isEmpty_join hne h, Bool.false_or,
    if_neg (by simpa [hends] using hc)]

theorem proper_split_orDot_join (hproper : proper segments = segments)
    (hslash : ∀ s ∈ segments, '/' ∉ s.toList) :
    proper (split (orDot (join segments))) = segments := by
  by_cases hne : segments = []
  · rw [hne]
    decide
  · have hempty : (join segments).isEmpty = false := by
      refine isEmpty_join hne fun s hs => ⟨?_, hslash s hs⟩
      rw [← hproper] at hs
      exact (mem_proper.1 hs).2.1
    rw [orDot, hempty, if_neg Bool.false_ne_true, split_join_of_no_slash hne hslash, hproper]

theorem mem_join {c : Char} (h : c ∈ (join segments).toList) :
    c = '/' ∨ ∃ s ∈ segments, c ∈ s.toList := by
  rw [join, String.toList_ofList] at h
  refine (Text.mem_glue h).imp_right ?_
  rintro ⟨cs, hcs, hc⟩
  obtain ⟨s, hs, rfl⟩ := List.mem_map.1 hcs
  exact ⟨s, hs, hc⟩

theorem withSlashes_of_no_backslash (h : '\\' ∉ path.toList) : withSlashes path = path := by
  have hchars : path.toList.map (fun c => if c = '\\' then '/' else c) = path.toList := by
    refine (List.map_congr_left fun c hc => if_neg ?_).trans (List.map_id' _)
    rintro rfl
    exact h hc
  rw [withSlashes, hchars, String.ofList_toList]

end Join

section Located

theorem foldl_climb {segments done : List String} (h : AreNames segments) :
    segments.foldl (climb true) done = segments.reverse ++ done := by
  induction segments generalizing done with
  | nil => rfl
  | cons s rest ih =>
      have hs := (h s List.mem_cons_self).not_dots
      have hstep : climb true done s = s :: done := if_pos (by simp [hs])
      rw [List.foldl_cons, hstep, ih fun t ht => h t (List.mem_cons_of_mem _ ht), List.reverse_cons,
        List.append_assoc]
      rfl

theorem areNames_foldl_climb {segments done : List String} (hdone : AreNames done)
    (h : ∀ s ∈ segments, s ≠ "" ∧ s ≠ "." ∧ '/' ∉ s.toList) :
    AreNames (segments.foldl (climb true) done) := by
  induction segments generalizing done with
  | nil => exact hdone
  | cons s rest ih =>
      obtain ⟨hempty, hdot, hslash⟩ := h s List.mem_cons_self
      refine ih ?_ fun t ht => h t (List.mem_cons_of_mem _ ht)
      unfold climb
      split
      · rename_i hdots
        intro t ht
        rcases List.mem_cons.1 ht with rfl | ht
        · exact ⟨hempty, hdot, by simpa using hdots, hslash⟩
        · exact hdone t ht
      · cases done with
        | nil => exact fun t ht => absurd ht List.not_mem_nil
        | cons last done =>
            have hlast := (hdone last List.mem_cons_self).not_dots
            simp only [hlast, if_false]
            exact fun t ht => hdone t (List.mem_cons_of_mem _ ht)

theorem areNames_located (current path : String) : AreNames (located current path) := by
  have hclimb : AreNames ((proper (split (append current path))).foldl (climb true) []) := by
    refine areNames_foldl_climb (fun s hs => absurd hs List.not_mem_nil) fun s hs => ?_
    obtain ⟨hs, hproper⟩ := List.mem_filter.1 hs
    simp only [Bool.and_eq_true, bne_iff_ne, ne_eq] at hproper
    exact ⟨hproper.1, hproper.2, no_slash_of_mem_split hs⟩
  exact fun s hs => hclimb s (List.mem_reverse.1 hs)

theorem located_absolute (current : String) {segments : List String} (h : AreNames segments) :
    located current ("/" ++ join segments) = segments := by
  have habsolute : append current ("/" ++ join segments) = "/" ++ join segments := by
    refine if_pos ?_
    rw [isAbsolute, String.toList_append]
    rfl
  rw [located, resolveSegments, habsolute, proper_split_join h, foldl_climb h, List.append_nil,
    List.reverse_reverse]

end Located

theorem commonLength_append (segments others : List String) :
    commonLength segments (segments ++ others) = segments.length := by
  induction segments with
  | nil => rw [commonLength] <;> simp
  | cons s rest ih => rw [List.cons_append, commonLength, if_pos rfl, ih, List.length_cons]

theorem fromRoot_below (current : String) {root way : List String} (hroot : AreNames root)
    (hway : AreNames way) :
    fromRoot current ("/" ++ join (root ++ way)) ("/" ++ join root) = "./" ++ orDot (join way) := by
  rw [fromRoot, relative, located_absolute current (hroot.append hway),
    located_absolute current hroot, commonLength_append, Nat.sub_self, List.replicate_zero,
    List.nil_append, List.drop_left]

theorem nameFromRoot_eq_ok_iff {current file root path : String} :
    nameFromRoot current file root = .ok path ↔ file.isEmpty = false
      ∧ path = fromRoot current file root := by
  unfold nameFromRoot
  cases file.isEmpty <;> simp [eq_comm]

theorem nameFromRoot_below (current : String) {root way : List String} (hroot : AreNames root)
    (hway : AreNames way) :
    nameFromRoot current ("/" ++ join (root ++ way)) ("/" ++ join root)
      = .ok ("./" ++ orDot (join way)) := by
  refine nameFromRoot_eq_ok_iff.2 ⟨?_, (fromRoot_below current hroot hway).symm⟩
  simp

end CodeSurvey.Path
