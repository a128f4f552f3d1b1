import CodeSurvey.Proofs.Json.RoundTrip
import CodeSurvey.Proofs.Report.Decoding
import CodeSurvey.Store.Basic

namespace CodeSurvey

namespace Table

variable {α : Type}

theorem erase_erase (t : Table α) (key : StoreKey) : erase (erase t key) key = erase t key := by
  simp only [erase, List.filter_filter, Bool.and_self]

theorem erase_put (t : Table α) (key : StoreKey) (value : α) :
    erase (put t key value) key = erase t key := by
  have hlast : erase [(key, value)] key = [] := by simp [erase]
  rw [put, erase, List.filter_append, ← erase, ← erase, erase_erase, hlast, List.append_nil]

theorem find?_of_not_mem {t : Table α} {key : StoreKey} (h : key ∉ t.map Prod.fst) :
    find? t key = none := by
  induction t with
  | nil => rfl
  | cons row rest ih =>
      obtain ⟨k, v⟩ := row
      rw [List.map_cons, List.mem_cons, not_or] at h
      rw [find?_cons, if_neg (Ne.symm h.1)]
      exact ih h.2

end Table

namespace Store

def Holds (s : Store) (key : StoreKey) (value : Json) : Prop :=
  match s with
  | values entries => Table.find? entries key = some value
  | texts rows => Table.find? rows key = some value.text

def AgreesAt (key : StoreKey) : Store → Store → Prop
  | values entries, values others => Table.find? entries key = Table.find? others key
  | texts rows, texts others => Table.find? rows key = Table.find? others key
  | _, _ => False

theorem holds_of_agreesAt {key : StoreKey} {s t : Store} {value : Json} (h : AgreesAt key s t)
    (ht : t.Holds key value) : s.Holds key value := by
  cases s <;> cases t <;> simp only [AgreesAt] at h <;> simp only [Holds] at ht ⊢ <;> rw [h, ht]

theorem get_of_not_mem {s : Store} {key : StoreKey} (h : key ∉ s.keys) : s.get key = .ok none := by
  cases s with
  | values entries =>
      rw [get, Table.find?_of_not_mem h]
      rfl
  | texts rows =>
      rw [get, Table.find?_of_not_mem h]

theorem mem_keys_of_get {s : Store} {key : StoreKey} {v : Json} (h : s.get key = .ok (some v)) :
    key ∈ s.keys := by
  by_contra hkey
  exact absurd ((get_of_not_mem hkey).symm.trans h) nofun

theorem mem_keys_of_holds {s : Store} {key : StoreKey} {v : Json} (h : s.Holds key v) :
    key ∈ s.keys := by
  by_contra hkey
  cases s with
  | values entries => exact absurd (h.symm.trans (Table.find?_of_not_mem hkey)) nofun
  | texts rows => exact absurd (h.symm.trans (Table.find?_of_not_mem hkey)) nofun

theorem keys_erase (s : Store) (key : StoreKey) :
    (s.erase key).keys = s.keys.filter (· != key) := by
  cases s <;> simp only [erase, keys, Table.erase, List.filter_map, Function.comp_def]

theorem keys_put (s : Store) (key : StoreKey) (r : Report) :
    (s.put key r).keys = s.keys.filter (· != key) ++ [key] := by
  rw [← keys_erase]
  cases s <;> simp only [put, erase, keys, Table.put, List.map_append, List.map_cons, List.map_nil]

theorem get_of_agreesAt {key : StoreKey} {s t : Store} (h : AgreesAt key s t) :
    s.get key = t.get key := by
  cases s <;> cases t <;> simp only [AgreesAt] at h <;> simp only [get, h]

theorem get_erase_self (s : Store) (key : StoreKey) : (s.erase key).get key = .ok none := by
  cases s <;> simp only [erase, get, Table.find?_erase_self, Option.bind_none]

theorem holds_put (s : Store) (key : StoreKey) (r : Report) :
    (s.put key r).Holds key r.toWrapped := by
  cases s <;> exact Table.find?_put_self _ _ _

theorem agreesAt_put {key other : StoreKey} (h : other ≠ key) (s : Store) (r : Report) :
    AgreesAt other (s.put key r) s := by
  cases s <;> exact Table.find?_put_of_ne _ _ h

theorem agreesAt_erase {key other : StoreKey} (h : other ≠ key) (s : Store) :
    AgreesAt other (s.erase key) s := by
  cases s <;> exact Table.find?_erase_of_ne _ h

theorem erase_put (s : Store) (key : StoreKey) (r : Report) :
    (s.put key r).erase key = s.erase key := by
  cases s with
  | values entries => exact congrArg values (Table.erase_put _ _ _)
  | texts rows => exact congrArg texts (Table.erase_put _ _ _)

theorem write_eq_ok_iff {s t : Store} {key : StoreKey} {r : Report} :
    s.write key r = .ok t ↔ r.toWrapped.checkWritable = .ok () ∧ t = s.put key r := by
  unfold write
  cases r.toWrapped.checkWritable with
  | error f => simp
  | ok _ => simp [eq_comm]

theorem write_eq_error_iff {s : Store} {key : StoreKey} {r : Report} {f : Fault} :
    s.write key r = .error f ↔ r.toWrapped.checkWritable = .error f := by
  unfold write
  cases r.toWrapped.checkWritable with
  | error e => simp
  | ok _ => simp

-- Writing and reading have the same limits, so what was written reads back.
theorem get_of_holds {s : Store} {key : StoreKey} {fields : Fields} (hf : fields.Proper)
    (hwritable : (Json.obj fields).checkWritable = .ok ()) (h : s.Holds key (.obj fields)) :
    s.get key = .ok (some (.obj fields)) := by
  cases s with
  | values entries =>
      simp only [get, Holds] at h ⊢
      rw [h]
      rfl
  | texts rows =>
      simp only [get, Holds] at h ⊢
      rw [h]
      simp only [payloadOf, Json.read_text (v := .obj fields) hf,
        Json.checkWritable_eq_ok_iff.1 hwritable]
      rfl

end Store

end CodeSurvey
