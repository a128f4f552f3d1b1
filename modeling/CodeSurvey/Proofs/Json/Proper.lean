import CodeSurvey.Json.Access
import CodeSurvey.Json.Printer
import Mathlib.Data.List.Nodup

namespace CodeSurvey.Json

@[elab_as_elim]
theorem induct {motive : Json → Prop} (null : motive null) (bool : ∀ b, motive (bool b))
    (int : ∀ n, motive (int n)) (real : ∀ d, motive (real d)) (str : ∀ s, motive (str s))
    (arr : ∀ items, (∀ v ∈ items, motive v) → motive (arr items))
    (obj : ∀ fields, (∀ field ∈ fields, motive field.2) → motive (obj fields)) : ∀ v, motive v
  | .null => null
  | .bool b => bool b
  | .int n => int n
  | .real d => real d
  | .str s => str s
  | .arr items => arr items fun v _hmem => induct null bool int real str arr obj v
  | .obj fields => obj fields fun (_name, v) _hmem => induct null bool int real str arr obj v
termination_by v => sizeOf v
decreasing_by
  · have := List.sizeOf_lt_of_mem _hmem
    simp only [Json.arr.sizeOf_spec]
    omega
  · have := List.sizeOf_lt_of_mem _hmem
    simp only [Json.obj.sizeOf_spec, Prod.mk.sizeOf_spec] at this ⊢
    omega

@[simp]
theorem textsWith_eq (s : Separators) (items : List Json) :
    textsWith s items = items.map (textWith s) := by
  induction items with
  | nil => rfl
  | cons v rest ih => rw [textsWith, ih, List.map_cons]

@[simp]
theorem fieldTextsWith_eq (s : Separators) (fields : Fields) :
    fieldTextsWith s fields = fields.map fun field =>
      quote field.1 ++ s.name ++ textWith s field.2 := by
  induction fields with
  | nil => rfl
  | cons field rest ih => rw [fieldTextsWith, ih, List.map_cons]

@[simp]
theorem sortedItems_eq (items : List Json) : sortedItems items = items.map sorted := by
  induction items with
  | nil => rfl
  | cons v rest ih => rw [sortedItems, ih, List.map_cons]

@[simp]
theorem sortedFields_eq (fields : Fields) :
    sortedFields fields = fields.map fun field => (field.1, sorted field.2) := by
  induction fields with
  | nil => rfl
  | cons field rest ih => rw [sortedFields, ih, List.map_cons]

section Sorted

attribute [local simp] sorted

theorem sorted_arr (items : List Json) : sorted (.arr items) = .arr (items.map sorted) := by
  simp

theorem sorted_obj (fields : Fields) :
    sorted (.obj fields)
      = .obj ((fields.map fun field => (field.1, sorted field.2)).mergeSort fieldLe) := by
  simp

end Sorted

inductive Proper : Json → Prop where
  | null : Proper .null
  | bool (b : Bool) : Proper (.bool b)
  | int (n : Int) : Proper (.int n)
  | real (d : Double) : Proper (.real d)
  | str (s : String) : Proper (.str s)
  | arr {items : List Json} (parts : ∀ v ∈ items, Proper v) : Proper (.arr items)
  | obj {fields : Fields} (names : fields.names.Nodup) (parts : ∀ field ∈ fields, Proper field.2) :
      Proper (.obj fields)

theorem Proper.items {items : List Json} (h : Proper (.arr items)) : ∀ v ∈ items, Proper v := by
  cases h with
  | arr parts => exact parts

theorem proper_ofTexts (texts : List String) : Proper (ofTexts texts) := by
  refine .arr fun v hv => ?_
  obtain ⟨s, -, rfl⟩ := List.mem_map.1 hv
  exact .str s

end CodeSurvey.Json

namespace CodeSurvey.Fields

def Proper (fields : Fields) : Prop := Json.Proper (.obj fields)

theorem Proper.nodup {fields : Fields} (h : fields.Proper) : fields.names.Nodup := by
  cases h with
  | obj names _ => exact names

theorem Proper.parts {fields : Fields} (h : fields.Proper) : ∀ field ∈ fields, field.2.Proper := by
  cases h with
  | obj _ parts => exact parts

theorem proper_nil : Proper [] := .obj List.nodup_nil fun _ h => absurd h List.not_mem_nil

theorem proper_cons {name : String} {value : Json} {fields : Fields} (hname : name ∉ fields.names)
    (hvalue : value.Proper) (h : fields.Proper) : Proper ((name, value) :: fields) := by
  refine .obj (List.nodup_cons.2 ⟨hname, h.nodup⟩) fun field hfield => ?_
  rcases List.mem_cons.1 hfield with rfl | hfield
  · exact hvalue
  · exact h.parts field hfield

theorem mem_of_get? {fields : Fields} {name : String} {value : Json}
    (h : fields.get? name = some value) :
    (name, value) ∈ fields := by
  induction fields with
  | nil => simp [get?] at h
  | cons field rest ih =>
      obtain ⟨n, v⟩ := field
      by_cases hn : name = n
      · rw [hn, get?_cons_self] at h
        rw [hn, Option.some.inj h]
        exact List.mem_cons_self
      · rw [get?_cons_of_ne _ _ hn] at h
        exact List.mem_cons_of_mem _ (ih h)

theorem Proper.get {fields : Fields} (h : fields.Proper) {name : String} {value : Json}
    (hget : fields.get? name = some value) : value.Proper :=
  h.parts _ (mem_of_get? hget)

theorem names_put_subset (fields : Fields) (name : String) (value : Json) :
    ∀ n ∈ (fields.put name value).names, n = name ∨ n ∈ fields.names := by
  induction fields with
  | nil => simp [put, names]
  | cons field rest ih =>
      obtain ⟨m, v⟩ := field
      intro n hn
      by_cases h : m = name
      · rw [put, if_pos h] at hn
        exact .inr hn
      · rw [put, if_neg h] at hn
        rcases List.mem_cons.1 hn with rfl | hn
        · exact .inr (List.mem_cons_self)
        · exact (ih n hn).imp_right (List.mem_cons_of_mem _)

theorem Proper.put {fields : Fields} (h : fields.Proper) (name : String) {value : Json}
    (hvalue : value.Proper) :
    (fields.put name value).Proper := by
  induction fields with
  | nil => exact proper_cons List.not_mem_nil hvalue proper_nil
  | cons field rest ih =>
      obtain ⟨n, v⟩ := field
      have hrest : Proper rest :=
        .obj (List.nodup_cons.1 h.nodup).2 fun field hf => h.parts field (List.mem_cons_of_mem _ hf)
      by_cases hn : n = name
      · rw [Fields.put, if_pos hn]
        exact proper_cons (List.nodup_cons.1 h.nodup).1 hvalue hrest
      · rw [Fields.put, if_neg hn]
        refine proper_cons (fun hmem => ?_) (h.parts (n, v) List.mem_cons_self) (ih hrest)
        rcases names_put_subset rest name value n hmem with hname | hmem
        · exact hn hname
        · exact (List.nodup_cons.1 h.nodup).1 hmem

theorem Proper.filter {fields : Fields} (h : fields.Proper) (p : String × Json → Bool) :
    Proper (fields.filter p) :=
  .obj (h.nodup.sublist (List.filter_sublist.map _)) fun field hf =>
    h.parts field (List.mem_filter.1 hf).1

theorem Proper.erase {fields : Fields} (h : fields.Proper) (name : String) :
    (fields.erase name).Proper :=
  h.filter _

theorem put_of_not_mem {fields : Fields} {name : String} (h : name ∉ fields.names) (value : Json) :
    fields.put name value = fields ++ [(name, value)] := by
  induction fields with
  | nil => rfl
  | cons field rest ih =>
      obtain ⟨n, v⟩ := field
      have hn : n ≠ name := fun hn => h (hn ▸ List.mem_cons_self)
      rw [Fields.put, if_neg hn, ih fun hmem => h (List.mem_cons_of_mem _ hmem), List.cons_append]

theorem putAll_of_nodup (acc : Fields) {fields : Fields} (h : (acc ++ fields).names.Nodup) :
    acc.putAll fields = acc ++ fields := by
  induction fields generalizing acc with
  | nil => rw [putAll, List.foldl_nil, List.append_nil]
  | cons field rest ih =>
      obtain ⟨n, v⟩ := field
      have hn : n ∉ acc.names := by
        intro hmem
        rw [names, List.map_append] at h
        exact (List.nodup_append.1 h).2.2 n hmem n List.mem_cons_self rfl
      have hput : acc.putAll ((n, v) :: rest) = (acc.put n v).putAll rest := rfl
      rw [hput, put_of_not_mem hn, ih _ (by simpa using h), List.append_assoc,
        List.singleton_append]

theorem get?_append (fields more : Fields) (name : String) :
    get? (fields ++ more) name = (fields.get? name).or (more.get? name) :=
  List.lookup_append

theorem get?_mapValues (h : String → Json → Json) (fields : Fields) (name : String) :
    get? (fields.map fun field => (field.1, h field.1 field.2)) name
      = (fields.get? name).map (h name) := by
  induction fields with
  | nil => rfl
  | cons field rest ih =>
      obtain ⟨n, v⟩ := field
      rw [List.map_cons]
      by_cases hn : name = n
      · rw [hn, get?_cons_self, get?_cons_self]
        rfl
      · rw [get?_cons_of_ne _ _ hn, get?_cons_of_ne _ _ hn]
        exact ih

theorem get?_flatMap (part : String → Fields) (parts : List String) (name : String) :
    get? (parts.flatMap part) name = parts.findSome? fun p => (part p).get? name := by
  induction parts with
  | nil => rfl
  | cons p rest ih =>
      rw [List.flatMap_cons, get?_append, ih, List.findSome?_cons]
      cases (part p).get? name with
      | none => rw [Option.none_or]
      | some value => rw [Option.some_or]

theorem filter_put (p : String → Bool) (fields : Fields) (name : String) (value : Json) :
    (fields.put name value).filter (fun field => p field.1)
      = if p name then put (fields.filter fun field => p field.1) name value
        else fields.filter fun field => p field.1 := by
  induction fields with
  | nil =>
      cases h : p name with
      | true => simp [put, h]
      | false => simp [put, h]
  | cons field rest ih =>
      obtain ⟨n, v⟩ := field
      by_cases hn : n = name
      · subst hn
        cases h : p n with
        | true => simp [put, h]
        | false => simp [put, h]
      · rw [put, if_neg hn, List.filter_cons, List.filter_cons, ih]
        cases hp : p n with
        | true =>
            cases h : p name with
            | true => simp [put, hn]
            | false => simp
        | false => simp

end CodeSurvey.Fields
