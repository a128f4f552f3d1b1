import CodeSurvey.Syntax
import Mathlib.Data.List.Lex
import Mathlib.Logic.Relation

namespace CodeSurvey.Node

variable {root n : Node} {ns ms : List Node}

@[elab_as_elim]
theorem induct {motive : Node → Prop} (node : ∀ n : Node, (∀ c ∈ n.children, motive c) → motive n) :
    ∀ n, motive n
  | ⟨kind, named, role, text, children⟩ =>
      node ⟨kind, named, role, text, children⟩ fun c _hmem => induct node c
termination_by n => sizeOf n
decreasing_by
  have hlt : sizeOf c < sizeOf children := List.sizeOf_lt_of_mem _hmem
  simp only [Node.mk.sizeOf_spec]
  omega

theorem preorder_eq (n : Node) : n.preorder = n :: preorders n.children := by
  cases n
  rw [preorder]

theorem preorders_append (ns ms : List Node) :
    preorders (ns ++ ms) = preorders ns ++ preorders ms := by
  induction ns with
  | nil => rfl
  | cons n ns ih => rw [List.cons_append, preorders, preorders, ih, List.append_assoc]

section Loop

structure Walk where
  pending : List Node
  met : List Node

namespace Walk

inductive Step : Walk → Walk → Prop where
  | visit (n : Node) (rest met : List Node) : Step ⟨n :: rest, met⟩ ⟨n.children ++ rest, met ++ [n]⟩

def start (root : Node) : Walk := ⟨[root], []⟩

structure EndsAt (s t : Walk) : Prop where
  reaches : Relation.ReflTransGen Step s t
  finished : ∀ next, ¬Step t next

variable {s t : Walk}

-- What has been met and what is pending always make up the same list.
def order (s : Walk) : List Node := s.met ++ preorders s.pending

theorem Step.order_eq (h : Step s t) : t.order = s.order := by
  obtain ⟨n, rest, met⟩ := h
  simp only [order, preorders, preorder_eq n, preorders_append, List.append_assoc, List.cons_append,
    List.nil_append]

theorem Step.sizes_lt (h : Step s t) : sizes t.pending < sizes s.pending := by
  obtain ⟨n, rest, met⟩ := h
  rw [sizes_append, sizes, size_eq]
  omega

theorem order_of_reaches (h : Relation.ReflTransGen Step s t) : t.order = s.order := by
  induction h with
  | refl => rfl
  | tail _ hlast ih => exact hlast.order_eq.trans ih

theorem pending_of_finished (h : ∀ next, ¬Step t next) : t.pending = [] := by
  obtain ⟨pending, met⟩ := t
  cases pending with
  | nil => rfl
  | cons n rest => exact absurd (.visit n rest met) (h _)

theorem exists_endsAt (s : Walk) : ∃ t, EndsAt s t := by
  induction hsize : sizes s.pending using Nat.strongRecOn generalizing s with
  | ind size ih =>
      obtain ⟨pending, met⟩ := s
      cases pending with
      | nil => exact ⟨_, .refl, nofun⟩
      | cons n rest =>
          have hstep := Step.visit n rest met
          obtain ⟨t, ht⟩ := ih _ (hsize ▸ hstep.sizes_lt) _ rfl
          exact ⟨t, .head hstep ht.reaches, ht.finished⟩

theorem endsAt_iff : EndsAt s t ↔ t = ⟨[], s.order⟩ := by
  have hend {t : Walk} (h : EndsAt s t) : t = ⟨[], s.order⟩ := by
    have hpending := pending_of_finished h.finished
    have horder := order_of_reaches h.reaches
    obtain ⟨pending, met⟩ := t
    obtain rfl : pending = [] := hpending
    rw [← horder, order, preorders, List.append_nil]
  constructor
  · exact hend
  · rintro rfl
    obtain ⟨t, ht⟩ := exists_endsAt s
    exact hend ht ▸ ht

end Walk

theorem walkPending_eq (pending : List Node) : walkPending pending = preorders pending := by
  induction pending using walkPending.induct with
  | case1 => rw [walkPending, preorders]
  | case2 n rest ih =>
      rw [walkPending, ih, preorders_append, preorders, preorder_eq, List.cons_append]

theorem walk_eq (root : Node) : root.walk = root.preorder := by
  rw [walk, walkPending_eq, preorders, preorders, List.append_nil]

end Loop

section Places

def at? : Node → List ℕ → Option Node
  | n, [] => some n
  | n, i :: rest => n.children[i]?.bind fun c => c.at? rest

mutual

def places : Node → List (List ℕ × Node)
  | ⟨kind, named, role, text, children⟩ =>
      ([], ⟨kind, named, role, text, children⟩) :: placesFrom 0 children

def placesFrom (i : ℕ) : List Node → List (List ℕ × Node)
  | [] => []
  | c :: rest => (places c).map (fun place => (i :: place.1, place.2)) ++ placesFrom (i + 1) rest

end

structure ListsPlaces (root : Node) (placed : List (List ℕ × Node)) : Prop where
  mem_iff : ∀ address n, (address, n) ∈ placed ↔ root.at? address = some n
  increasing : placed.Pairwise fun place later => place.1 < later.1

def InDocumentOrder (root : Node) (nodes : List Node) : Prop :=
  ∃ placed, ListsPlaces root placed ∧ placed.map Prod.snd = nodes

theorem places_eq (n : Node) : n.places = ([], n) :: placesFrom 0 n.children := by
  cases n
  rw [places]

theorem mem_placesFrom {i : ℕ} {place : List ℕ × Node} : place ∈ placesFrom i ns ↔
    ∃ (j : ℕ) (c : Node) (rest : List ℕ), ns[j]? = some c ∧ place.1 = (i + j) :: rest
      ∧ (rest, place.2) ∈ c.places := by
  induction ns generalizing i with
  | nil => simp [placesFrom]
  | cons c ns ih =>
      rw [placesFrom, List.mem_append, List.mem_map, ih]
      constructor
      · rintro (⟨⟨rest, n⟩, hmem, rfl⟩ | ⟨j, d, rest, hd, haddress, hmem⟩)
        · exact ⟨0, c, rest, rfl, rfl, hmem⟩
        · exact ⟨j + 1, d, rest, hd, by rw [haddress]; congr 1; omega, hmem⟩
      · rintro ⟨j, d, rest, hd, haddress, hmem⟩
        cases j with
        | zero =>
            obtain rfl := Option.some.inj hd
            exact .inl ⟨(rest, place.2), hmem, Prod.ext haddress.symm rfl⟩
        | succ j => exact .inr ⟨j, d, rest, hd, by rw [haddress]; congr 1; omega, hmem⟩

theorem mem_places_iff {address : List ℕ} : (address, n) ∈ root.places
      ↔ root.at? address = some n := by
  induction address generalizing root with
  | nil =>
      have hbelow : ([], n) ∉ placesFrom 0 root.children := by
        rw [mem_placesFrom]
        rintro ⟨j, c, rest, -, haddress, -⟩
        exact absurd haddress nofun
      simp [places_eq, at?, hbelow, eq_comm]
  | cons i address ih =>
      have hhead : (i :: address, n) ≠ ([], root) := nofun
      rw [places_eq, List.mem_cons, or_iff_right hhead, mem_placesFrom, at?,
        Option.bind_eq_some_iff]
      constructor
      · rintro ⟨j, c, rest, hc, haddress, hmem⟩
        obtain ⟨rfl, rfl⟩ := List.cons.inj haddress
        rw [Nat.zero_add]
        exact ⟨c, hc, ih.1 hmem⟩
      · rintro ⟨c, hc, hat⟩
        exact ⟨i, c, address, hc, by rw [Nat.zero_add], ih.2 hat⟩

theorem pairwise_placesFrom {i : ℕ}
    (h : ∀ c ∈ ns, c.places.Pairwise fun place later => place.1 < later.1) :
    (placesFrom i ns).Pairwise fun place later => place.1 < later.1 := by
  induction ns generalizing i with
  | nil => exact .nil
  | cons c ns ih =>
      rw [placesFrom, List.pairwise_append, List.pairwise_map]
      refine ⟨?_, ih fun d hd => h d (List.mem_cons_of_mem _ hd), ?_⟩
      · exact (h c List.mem_cons_self).imp fun hlt => List.cons_lt_cons_iff.2 (.inr ⟨rfl, hlt⟩)
      · intro place hplace later hlater
        obtain ⟨first, -, rfl⟩ := List.mem_map.1 hplace
        obtain ⟨j, d, rest, -, haddress, -⟩ := mem_placesFrom.1 hlater
        rw [haddress]
        exact List.cons_lt_cons_iff.2 (.inl (by omega))

theorem pairwise_places (n : Node) : n.places.Pairwise fun place later => place.1 < later.1 := by
  induction n using Node.induct with
  | node n ih =>
      rw [places_eq, List.pairwise_cons]
      refine ⟨fun place hplace => ?_, pairwise_placesFrom ih⟩
      obtain ⟨j, c, rest, -, haddress, -⟩ := mem_placesFrom.1 hplace
      rw [haddress]
      exact List.nil_lt_cons _ _

theorem nodes_placesFrom {i : ℕ} (h : ∀ c ∈ ns, c.places.map Prod.snd = c.preorder) :
    (placesFrom i ns).map Prod.snd = preorders ns := by
  induction ns generalizing i with
  | nil => rfl
  | cons c ns ih =>
      have hfirst := h c List.mem_cons_self
      rw [placesFrom, preorders, List.map_append, List.map_map, ih fun d hd =>
        h d (List.mem_cons_of_mem _ hd), ← hfirst]
      rfl

theorem nodes_places (n : Node) : n.places.map Prod.snd = n.preorder := by
  induction n using Node.induct with
  | node n ih => rw [places_eq, List.map_cons, nodes_placesFrom ih, preorder_eq]

theorem inDocumentOrder_preorder (root : Node) : root.InDocumentOrder root.preorder :=
  ⟨root.places, ⟨fun _ _ => mem_places_iff, pairwise_places root⟩, nodes_places root⟩

end Places

end CodeSurvey.Node
