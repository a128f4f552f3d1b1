import CodeSurvey.Proofs.Json.RoundTrip
import Mathlib.Data.List.Perm.Basic
import Mathlib.Data.List.Sort

namespace CodeSurvey.Json

def Alike (v w : Json) : Prop := v.sorted = w.sorted

namespace Alike

variable {u v w : Json}

theorem refl (v : Json) : Alike v v := rfl

theorem symm (h : Alike v w) : Alike w v := Eq.symm h

end Alike

end CodeSurvey.Json

namespace CodeSurvey.Fields

theorem names_perm {f g : Fields} (h : f.Perm g) : f.names.Perm g.names := h.map _

theorem get?_eq_some_iff {f : Fields} (hf : f.names.Nodup) {name : String} {v : Json} :
    f.get? name = some v ↔ (name, v) ∈ f := by
  refine ⟨mem_of_get?, fun h => ?_⟩
  induction f with
  | nil => exact absurd h List.not_mem_nil
  | cons field rest ih =>
      obtain ⟨n, u⟩ := field
      obtain ⟨hn, hrest⟩ := List.nodup_cons.1 hf
      rcases List.mem_cons.1 h with heq | hmem
      · obtain ⟨rfl, rfl⟩ := Prod.mk.inj heq
        exact get?_cons_self name v rest
      · have hne : name ≠ n := by
          rintro rfl
          exact hn (List.mem_map.2 ⟨_, hmem, rfl⟩)
        rw [get?_cons_of_ne _ _ hne]
        exact ih hrest hmem

theorem get?_perm {f g : Fields} (hf : f.names.Nodup) (h : f.Perm g) (name : String) :
    f.get? name = g.get? name := by
  have hg : g.names.Nodup := (names_perm h).nodup_iff.1 hf
  refine Option.ext fun v => ?_
  rw [get?_eq_some_iff hf, get?_eq_some_iff hg, h.mem_iff]

theorem get?_map (h : Json → Json) (f : Fields) (name : String) :
    get? (f.map fun field => (field.1, h field.2)) name = (f.get? name).map h :=
  get?_mapValues (fun _ => h) f name

theorem names_map (h : Json → Json) (f : Fields) :
    names (f.map fun field => (field.1, h field.2)) = f.names := by
  simp [names, Function.comp_def]

theorem perm_of_get? {f g : Fields} (hf : f.names.Nodup) (hg : g.names.Nodup)
    (h : ∀ name, f.get? name = g.get? name) :
    f.Perm g := by
  refine (List.perm_ext_iff_of_nodup hf.of_map hg.of_map).2 fun field => ?_
  obtain ⟨name, v⟩ := field
  rw [← get?_eq_some_iff hf, ← get?_eq_some_iff hg, h]

theorem sort_eq_of_perm {f g : Fields} (hf : f.names.Nodup) (h : f.Perm g) :
    f.mergeSort Json.fieldLe = g.mergeSort Json.fieldLe := by
  have hsorted (fields : Fields) : (fields.mergeSort Json.fieldLe).Pairwise fun a b =>
      Json.fieldLe a b = true :=
    List.pairwise_mergeSort
      (fun a b c hab hbc => by
        simp only [Json.fieldLe, decide_eq_true_eq] at hab hbc ⊢
        exact String.le_trans hab hbc)
      (fun a b => by
        simp only [Json.fieldLe, Bool.or_eq_true, decide_eq_true_eq]
        exact String.le_total a.1 b.1) fields
  have hperm : (f.mergeSort Json.fieldLe).Perm (g.mergeSort Json.fieldLe) :=
    ((List.mergeSort_perm f _).trans h).trans (List.mergeSort_perm g _).symm
  refine hperm.eq_of_pairwise (fun a b ha hb hab hba => ?_) (hsorted f) (hsorted g)
  simp only [Json.fieldLe, decide_eq_true_eq] at hab hba
  have hname : a.1 = b.1 := String.le_antisymm hab hba
  have hmema : a ∈ f := List.mem_mergeSort.1 ha
  have hmemb : b ∈ f := h.mem_iff.2 (List.mem_mergeSort.1 hb)
  exact List.inj_on_of_nodup_map hf hmema hmemb hname

def Alike (f g : Fields) : Prop :=
  ∀ name, (f.get? name).map Json.sorted = (g.get? name).map Json.sorted

theorem get?_sorted {f : Fields} (hf : f.names.Nodup) (name : String) :
    get? ((Json.sortedFields f).mergeSort Json.fieldLe) name = (f.get? name).map Json.sorted := by
  rw [Json.sortedFields_eq, ← get?_map]
  refine (get?_perm ?_ (List.mergeSort_perm _ _).symm name).symm
  rw [names_map]
  exact hf

theorem alike_iff {f g : Fields} (hf : f.names.Nodup) (hg : g.names.Nodup) :
    Json.Alike (.obj f) (.obj g) ↔ f.Alike g := by
  constructor
  · intro h name
    rw [← get?_sorted hf, ← get?_sorted hg, Json.obj.inj h]
  · intro h
    have hperm : List.Perm (f.map fun field => (field.1, Json.sorted field.2))
        (g.map fun field => (field.1, Json.sorted field.2)) := by
      refine perm_of_get? (by rw [names_map]; exact hf) (by rw [names_map]; exact hg) fun name => ?_
      rw [get?_map, get?_map, h name]
    have hsort := sort_eq_of_perm (by rw [names_map]; exact hf) hperm
    rw [Json.Alike, Json.sorted_obj, Json.sorted_obj, hsort]

namespace Alike

variable {f g : Fields} {v w : Json}

theorem get (h : f.Alike g) {name : String} (hf : f.get? name = some v) :
    ∃ w, g.get? name = some w ∧ v.Alike w := by
  have hname := h name
  rw [hf] at hname
  obtain ⟨w, hw, heq⟩ := Option.map_eq_some_iff.1 hname.symm
  exact ⟨w, hw, heq.symm⟩

theorem put (h : f.Alike g) (name : String) (hv : v.Alike w) :
    (f.put name v).Alike (g.put name w) := by
  intro other
  by_cases hne : other = name
  · subst hne
    rw [get?_put_self, get?_put_self]
    exact congrArg some hv
  · rw [get?_put_of_ne _ _ hne, get?_put_of_ne _ _ hne, h]

theorem get?_filter_name (p : String → Bool) (f : Fields) (name : String) :
    get? (f.filter fun field => p field.1) name = if p name then f.get? name else none := by
  induction f with
  | nil => simp [get?]
  | cons field rest ih =>
      obtain ⟨n, u⟩ := field
      rw [List.filter_cons]
      by_cases hn : name = n
      · subst hn
        cases hp : p name with
        | true => rw [if_pos rfl, if_pos rfl, get?_cons_self, get?_cons_self]
        | false =>
            rw [hp] at ih
            rw [if_neg Bool.false_ne_true, if_neg Bool.false_ne_true, ih, if_neg Bool.false_ne_true]
      · rw [get?_cons_of_ne _ _ hn, ← ih]
        split
        · rw [get?_cons_of_ne _ _ hn]
        · rfl

theorem filter (h : f.Alike g) (p : String → Bool) :
    Alike (f.filter fun field => p field.1) (g.filter fun field => p field.1) := by
  intro name
  rw [get?_filter_name, get?_filter_name]
  split
  · exact h name
  · rfl

theorem erase (h : f.Alike g) (name : String) : (f.erase name).Alike (g.erase name) :=
  h.filter fun n => n != name

end Alike

theorem get?_erase (fields : Fields) (name other : String) :
    (fields.erase name).get? other = if other = name then none else fields.get? other := by
  rw [erase, Alike.get?_filter_name (· != name)]
  by_cases h : other = name <;> simp [h]

end CodeSurvey.Fields

namespace CodeSurvey.Json

theorem Proper.sorted {v : Json} (h : v.Proper) : v.sorted.Proper := by
  induction v using Json.induct with
  | null => exact h
  | bool b => exact h
  | int n => exact h
  | real d => exact h
  | str s => exact h
  | arr items ih =>
      rw [sorted_arr]
      refine .arr fun u hu => ?_
      obtain ⟨v, hv, rfl⟩ := List.mem_map.1 hu
      exact ih v hv (h.items v hv)
  | obj fields ih =>
      have hf : Fields.Proper fields := h
      have hperm :=
        List.mergeSort_perm (fields.map fun field => (field.1, Json.sorted field.2)) fieldLe
      rw [sorted_obj]
      refine .obj ?_ fun field hfield => ?_
      · rw [(Fields.names_perm hperm).nodup_iff, Fields.names_map]
        exact hf.nodup
      · rw [List.mem_mergeSort] at hfield
        obtain ⟨f, hmem, rfl⟩ := List.mem_map.1 hfield
        exact ih f hmem (hf.parts f hmem)

theorem alike_of_canonical {v w : Json} (hv : v.Proper) (hw : w.Proper)
    (h : v.canonical = w.canonical) : v.Alike w :=
  textWith_injective Separators.plain_tight hv.sorted hw.sorted h

section Parts

variable {v w : Json}

theorem alike_arr_iff {items others : List Json} :
    Alike (.arr items) (.arr others) ↔ items.map Json.sorted = others.map Json.sorted := by
  rw [Alike, sorted_arr, sorted_arr, Json.arr.injEq]

theorem map_sorted_eq_iff {items others : List Json} :
    items.map Json.sorted = others.map Json.sorted ↔ List.Forall₂ Alike items others := by
  rw [← List.forall₂_eq_eq_eq, List.forall₂_map_left_iff, List.forall₂_map_right_iff]
  rfl

theorem map_sorted_map {f : Json → Json} {items others : List Json}
    (h : List.Forall₂ Alike items others)
    (hstep : ∀ v ∈ items, ∀ w ∈ others, v.Alike w → (f v).Alike (f w)) :
    (items.map f).map Json.sorted = (others.map f).map Json.sorted := by
  induction h with
  | nil => rfl
  | @cons v w _ _ hvw _ ih =>
      have hfirst : (f v).sorted = (f w).sorted :=
        hstep v List.mem_cons_self w List.mem_cons_self hvw
      simp only [List.map_cons, hfirst]
      exact congrArg _ (ih fun u hu t ht =>
        hstep u (List.mem_cons_of_mem _ hu) t (List.mem_cons_of_mem _ ht))

theorem Alike.str {s : String} (h : Alike (.str s) w) : w = .str s := by
  cases w <;> simp [Alike, Json.sorted] at h
  rw [h]

theorem Alike.arr {items : List Json} (h : Alike (.arr items) w) :
    ∃ others, w = .arr others ∧ items.map Json.sorted = others.map Json.sorted := by
  cases w <;> simp [Alike, Json.sorted] at h
  exact ⟨_, rfl, h⟩

theorem Alike.obj {f : Fields} (h : Alike (.obj f) w) : ∃ g, w = .obj g := by
  cases w <;> simp [Alike, Json.sorted] at h
  exact ⟨_, rfl⟩

theorem isEmpty_sorted (v : Json) : v.sorted.isEmpty = v.isEmpty := by
  cases v with
  | null => rfl
  | bool b => rfl
  | int n => rfl
  | real d => rfl
  | str s => rfl
  | arr items => simp [sorted_arr, isEmpty]
  | obj fields =>
      rw [sorted_obj, Json.isEmpty, Json.isEmpty, Bool.eq_iff_iff, List.isEmpty_iff_length_eq_zero,
        List.isEmpty_iff_length_eq_zero, List.length_mergeSort, List.length_map]

theorem Alike.isEmpty (h : Alike v w) : v.isEmpty = w.isEmpty := by
  rw [← isEmpty_sorted, ← isEmpty_sorted w, h]

theorem asText_sorted (v : Json) : v.sorted.asText = v.asText := by
  cases v <;> rfl

theorem Alike.asText (h : Alike v w) : v.asText = w.asText := by
  rw [← asText_sorted, ← asText_sorted w, h]

end Parts

end CodeSurvey.Json
