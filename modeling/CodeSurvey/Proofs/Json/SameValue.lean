import CodeSurvey.Proofs.Json.Alike
import Mathlib.Data.Option.Basic

namespace CodeSurvey.Json

inductive SameValue : Json → Json → Prop where
  | null : SameValue .null .null
  | bool (b : Bool) : SameValue (.bool b) (.bool b)
  | int (n : Int) : SameValue (.int n) (.int n)
  | real (d : Double) : SameValue (.real d) (.real d)
  | str (s : String) : SameValue (.str s) (.str s)
  | arr {items others : List Json} (count : items.length = others.length)
      (parts : ∀ (n : Nat) (v w : Json), items[n]? = some v → others[n]? = some w → SameValue v w) :
        SameValue (.arr items) (.arr others)
  | obj {f g : Fields} (names : ∀ name, f.has name = g.has name)
      (values : ∀ name v w, f.get? name = some v → g.get? name = some w → SameValue v w) :
        SameValue (.obj f) (.obj g)

variable {v w : Json}

theorem map_sorted_eq_of_parts {items others : List Json} (hcount : items.length = others.length)
    (hparts : ∀ (n : Nat) (v w : Json), items[n]? = some v → others[n]? = some w → v.Alike w) :
    items.map Json.sorted = others.map Json.sorted := by
  refine List.ext_getElem (by rw [List.length_map, List.length_map, hcount]) fun n hn hn' => ?_
  rw [List.length_map] at hn hn'
  rw [List.getElem_map, List.getElem_map]
  exact hparts n _ _ (List.getElem?_eq_getElem hn) (List.getElem?_eq_getElem hn')

theorem alike_of_values {f g : Fields} (hnames : ∀ name, f.has name = g.has name)
    (hvalues : ∀ name v w, f.get? name = some v → g.get? name = some w → v.Alike w) :
    f.Alike g := by
  intro name
  have hname := hnames name
  cases hf : f.get? name with
  | none =>
      rw [Fields.has, Fields.has, hf, Option.isSome_none, eq_comm, Option.isSome_eq_false_iff,
        Option.isNone_iff_eq_none]
        at hname
      rw [hname]
  | some v =>
      rw [Fields.has, Fields.has, hf, Option.isSome_some, eq_comm,
        Option.isSome_iff_exists] at hname
      obtain ⟨w, hg⟩ := hname
      rw [hg]
      exact congrArg some (hvalues name v w hf hg)

theorem SameValue.alike (h : SameValue v w) (hv : v.Proper) (hw : w.Proper) : v.Alike w := by
  induction h with
  | null => exact Alike.refl _
  | bool b => exact Alike.refl _
  | int n => exact Alike.refl _
  | real d => exact Alike.refl _
  | str s => exact Alike.refl _
  | arr count parts ih =>
      refine alike_arr_iff.2 (map_sorted_eq_of_parts count fun n v w hget hget' => ?_)
      exact ih n v w hget hget' (hv.items v (List.mem_of_getElem? hget))
        (hw.items w (List.mem_of_getElem? hget'))
  | @obj f g names values ih =>
      have hf : Fields.Proper f := hv
      have hg : Fields.Proper g := hw
      refine (Fields.alike_iff hf.nodup hg.nodup).2
        (alike_of_values names fun name v w hget hget' => ?_)
      exact ih name v w hget hget' (hf.get hget) (hg.get hget')

theorem sameValue_of_alike (h : v.Alike w) (hv : v.Proper) (hw : w.Proper) : SameValue v w := by
  induction v using Json.induct generalizing w with
  | null =>
      cases w <;> simp [Alike, Json.sorted] at h
      exact .null
  | bool b =>
      cases w <;> simp [Alike, Json.sorted] at h
      exact h ▸ .bool b
  | int n =>
      cases w <;> simp [Alike, Json.sorted] at h
      exact h ▸ .int n
  | real d =>
      cases w <;> simp [Alike, Json.sorted] at h
      exact h ▸ .real d
  | str s =>
      rw [h.str]
      exact .str s
  | arr items ih =>
      obtain ⟨others, rfl, hsorted⟩ := h.arr
      have hparts := map_sorted_eq_iff.1 hsorted
      refine .arr hparts.length_eq fun n v w hget hget' => ?_
      obtain ⟨hn, rfl⟩ := List.getElem?_eq_some_iff.1 hget
      obtain ⟨hn', rfl⟩ := List.getElem?_eq_some_iff.1 hget'
      exact ih _ (List.getElem_mem hn) (hparts.get hn hn') (hv.items _ (List.getElem_mem hn))
        (hw.items _ (List.getElem_mem hn'))
  | obj f ih =>
      obtain ⟨g, rfl⟩ := h.obj
      have hf : Fields.Proper f := hv
      have hg : Fields.Proper g := hw
      have hfields := (Fields.alike_iff hf.nodup hg.nodup).1 h
      refine .obj (fun name => ?_) fun name v w hget hget' => ?_
      · have hname := congrArg Option.isSome (hfields name)
        rwa [Option.isSome_map, Option.isSome_map] at hname
      · obtain ⟨u, hu, halike⟩ := hfields.get hget
        obtain rfl := Option.some.inj (hget'.symm.trans hu)
        exact ih (name, v) (Fields.mem_of_get? hget) halike (hf.get hget) (hg.get hget')

theorem sameValue_iff_alike (hv : v.Proper) (hw : w.Proper) : SameValue v w ↔ v.Alike w :=
  ⟨fun h => h.alike hv hw, fun h => sameValue_of_alike h hv hw⟩

theorem canonical_eq_iff (hv : v.Proper) (hw : w.Proper) :
    v.canonical = w.canonical ↔ SameValue v w := by
  rw [sameValue_iff_alike hv hw]
  exact ⟨alike_of_canonical hv hw, congrArg (textWith .tight)⟩

theorem option_sameValue_iff {x y : Option Json} (hx : ∀ v ∈ x, v.Proper) (hy : ∀ v ∈ y, v.Proper) :
    Option.Rel SameValue x y ↔ x.map Json.sorted = y.map Json.sorted := by
  cases x with
  | none =>
      cases y with
      | none => exact ⟨fun _ => rfl, fun _ => .none⟩
      | some w => exact ⟨nofun, nofun⟩
  | some v =>
      cases y with
      | none => exact ⟨nofun, nofun⟩
      | some w =>
          rw [Option.rel_some_some, sameValue_iff_alike (hx v rfl) (hy w rfl), Option.map_some,
            Option.map_some, Option.some.injEq]
          rfl

theorem sameValue_str_iff {s s' : String} : SameValue (.str s) (.str s') ↔ s = s' := by
  constructor
  · rintro ⟨⟩
    rfl
  · rintro rfl
    exact .str s

theorem sameValue_arr_iff {items others : List Json} :
    SameValue (.arr items) (.arr others) ↔ List.Forall₂ SameValue items others := by
  constructor
  · rintro ⟨⟩
    rename_i count parts
    exact List.forall₂_iff_get.2 ⟨count, fun n hn hn' =>
      parts n _ _ (List.getElem?_eq_getElem hn) (List.getElem?_eq_getElem hn')⟩
  · intro h
    refine .arr h.length_eq fun n v w hget hget' => ?_
    obtain ⟨hn, rfl⟩ := List.getElem?_eq_some_iff.1 hget
    obtain ⟨hn', rfl⟩ := List.getElem?_eq_some_iff.1 hget'
    exact h.get hn hn'

theorem isSome_of_rel {x y : Option Json} (h : Option.Rel SameValue x y) : x.isSome = y.isSome := by
  cases h with
  | none => rfl
  | some _ => rfl

theorem sameValue_obj_iff {f g : Fields} :
    SameValue (.obj f) (.obj g) ↔ ∀ name, Option.Rel SameValue (f.get? name) (g.get? name) := by
  constructor
  · rintro ⟨⟩ name
    rename_i names values
    have hname := names name
    rw [Fields.has, Fields.has] at hname
    cases hf : f.get? name with
    | none =>
        rw [hf, Option.isSome_none, eq_comm, Option.isSome_eq_false_iff,
          Option.isNone_iff_eq_none] at hname
        rw [hname]
        exact .none
    | some v =>
        rw [hf, Option.isSome_some, eq_comm, Option.isSome_iff_exists] at hname
        obtain ⟨w, hg⟩ := hname
        rw [hg]
        exact .some (values name v w hf hg)
  · intro h
    refine .obj (fun name => ?_) fun name v w hf hg => ?_
    · rw [Fields.has, Fields.has]
      exact isSome_of_rel (h name)
    · have hname := h name
      rw [hf, hg] at hname
      exact Option.rel_some_some.1 hname

theorem SameValue.refl (v : Json) : SameValue v v := by
  induction v using Json.induct with
  | null => exact .null
  | bool b => exact .bool b
  | int n => exact .int n
  | real d => exact .real d
  | str s => exact .str s
  | arr items ih => exact sameValue_arr_iff.2 (List.forall₂_same.2 ih)
  | obj f ih =>
      refine sameValue_obj_iff.2 fun name => ?_
      cases hget : Fields.get? f name with
      | none => exact .none
      | some v => exact .some (ih (name, v) (Fields.mem_of_get? hget))

theorem rel_refl (v : Option Json) : Option.Rel SameValue v v := by
  cases v with
  | none => exact .none
  | some v => exact .some (.refl v)

theorem sameValue_of_perm {f g : Fields} (hf : f.names.Nodup) (h : f.Perm g) :
    SameValue (.obj f) (.obj g) := by
  refine sameValue_obj_iff.2 fun name => ?_
  rw [Fields.get?_perm hf h name]
  exact rel_refl _

end CodeSurvey.Json
