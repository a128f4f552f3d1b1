import CodeSurvey.Json.Double

namespace CodeSurvey

inductive Json where
  | null
  | bool (value : Bool)
  | int (value : Int)
  | real (value : Double)
  | str (text : String)
  | arr (items : List Json)
  | obj (fields : List (String × Json))
  deriving Repr, Inhabited

abbrev Fields := List (String × Json)

namespace Json

mutual

def same : Json → Json → Bool
  | null, null => true
  | bool a, bool b => a == b
  | int m, int n => m == n
  | real d, real e => d == e
  | str s, str t => s == t
  | arr items, arr others => sameItems items others
  | obj fields, obj others => sameFields fields others
  | _, _ => false

def sameItems : List Json → List Json → Bool
  | [], [] => true
  | v :: rest, u :: others => same v u && sameItems rest others
  | _, _ => false

def sameFields : List (String × Json) → List (String × Json) → Bool
  | [], [] => true
  | (m, v) :: rest, (n, u) :: others => m == n && same v u && sameFields rest others
  | _, _ => false

end

instance : BEq Json := ⟨same⟩

end Json

namespace Fields

def get? (fields : Fields) (name : String) : Option Json :=
  fields.lookup name

def names (fields : Fields) : List String :=
  fields.map Prod.fst

def put : Fields → String → Json → Fields
  | [], name, value => [(name, value)]
  | (n, v) :: rest, name, value =>
      if n = name then (n, value) :: rest else (n, v) :: put rest name value

def putAll (fields : Fields) (more : Fields) : Fields :=
  more.foldl (fun acc field => acc.put field.1 field.2) fields

def erase (fields : Fields) (name : String) : Fields :=
  fields.filter fun field => field.1 != name

def has (fields : Fields) (name : String) : Bool :=
  (fields.get? name).isSome

theorem get?_cons_self (name : String) (value : Json) (rest : Fields) :
    get? ((name, value) :: rest) name = some value :=
  List.lookup_cons_self

theorem get?_cons_of_ne {name other : String} (value : Json) (rest : Fields) (h : other ≠ name) :
    get? ((name, value) :: rest) other = rest.get? other := by
  have hb : (other == name) = false := by simp [h]
  rw [get?, List.lookup_cons, hb]
  rfl

theorem get?_put_self (fields : Fields) (name : String) (value : Json) :
    (fields.put name value).get? name = some value := by
  induction fields with
  | nil => exact get?_cons_self name value []
  | cons field rest ih =>
      obtain ⟨n, v⟩ := field
      by_cases h : n = name
      · rw [put, if_pos h, h]
        exact get?_cons_self name value rest
      · rw [put, if_neg h, get?_cons_of_ne _ _ (Ne.symm h)]
        exact ih

theorem get?_put_of_ne (fields : Fields) {name other : String} (value : Json) (h : other ≠ name) :
    (fields.put name value).get? other = fields.get? other := by
  induction fields with
  | nil => exact get?_cons_of_ne value [] h
  | cons field rest ih =>
      obtain ⟨n, v⟩ := field
      by_cases hn : n = name
      · rw [put, if_pos hn, hn, get?_cons_of_ne _ _ h, get?_cons_of_ne _ _ h]
      · rw [put, if_neg hn]
        by_cases ho : other = n
        · rw [ho, get?_cons_self, get?_cons_self]
        · rw [get?_cons_of_ne _ _ ho, get?_cons_of_ne _ _ ho]
          exact ih

end Fields

namespace Json

def isEmpty : Json → Bool
  | null => true
  | bool b => !b
  | int n => n == 0
  | real d => d.isZero
  | str s => s.isEmpty
  | arr items => items.isEmpty
  | obj fields => fields.isEmpty

def ofOption : Option Json → Json
  | none => null
  | some v => v

def present : Json → Option Json
  | null => none
  | v => some v

def ofTexts (texts : List String) : Json :=
  arr (texts.map str)

end Json

end CodeSurvey
