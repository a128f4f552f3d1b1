namespace CodeSurvey

structure StoreKey where
  analyzer : String
  identifier : String
  deriving DecidableEq, Repr

abbrev Table (α : Type) := List (StoreKey × α)

namespace Table

def find? (t : Table α) (key : StoreKey) : Option α :=
  t.lookup key

def erase (t : Table α) (key : StoreKey) : Table α :=
  t.filter fun row => row.1 != key

def put (t : Table α) (key : StoreKey) (value : α) : Table α :=
  erase t key ++ [(key, value)]

def has (t : Table α) (key : StoreKey) : Bool :=
  (find? t key).isSome

theorem find?_nil (key : StoreKey) : find? ([] : Table α) key = none := rfl

theorem find?_cons (k : StoreKey) (v : α) (t : Table α) (key : StoreKey) :
    find? ((k, v) :: t) key = if k = key then some v else find? t key := by
  by_cases h : k = key
  · rw [if_pos h, h]
    exact List.lookup_cons_self
  · have hk : (key == k) = false := by simp [Ne.symm h]
    rw [if_neg h, find?, List.lookup_cons, hk]
    rfl

theorem erase_cons (k : StoreKey) (v : α) (t : Table α) (key : StoreKey) :
    erase ((k, v) :: t) key = if k = key then erase t key else (k, v) :: erase t key := by
  by_cases h : k = key <;> simp [erase, h]

theorem find?_erase_self (t : Table α) (key : StoreKey) : find? (erase t key) key = none := by
  induction t with
  | nil => rfl
  | cons row rest ih =>
      obtain ⟨k, v⟩ := row
      rw [erase_cons]
      split
      · exact ih
      · rename_i h; rw [find?_cons, if_neg h]; exact ih

theorem find?_erase_of_ne (t : Table α) {key other : StoreKey} (h : other ≠ key) :
    find? (erase t key) other = find? t other := by
  induction t with
  | nil => rfl
  | cons row rest ih =>
      obtain ⟨k, v⟩ := row
      rw [erase_cons, find?_cons]
      split
      · rename_i hk; subst hk; rw [if_neg (Ne.symm h)]; exact ih
      · rw [find?_cons, ih]

theorem find?_append (t u : Table α) (key : StoreKey) :
    find? (t ++ u) key = (find? t key).or (find? u key) := by
  induction t with
  | nil => simp [find?_nil]
  | cons row rest ih =>
      obtain ⟨k, v⟩ := row
      rw [List.cons_append, find?_cons, find?_cons, ih]
      split <;> simp

theorem find?_put_self (t : Table α) (key : StoreKey) (value : α) :
    find? (put t key value) key = some value := by
  rw [put, find?_append, find?_erase_self, find?_cons]
  simp

theorem find?_put_of_ne (t : Table α) {key other : StoreKey} (value : α) (h : other ≠ key) :
    find? (put t key value) other = find? t other := by
  rw [put, find?_append, find?_erase_of_ne t h, find?_cons, if_neg (Ne.symm h), find?_nil]
  simp

end Table

end CodeSurvey
