import CodeSurvey.Syntax
import Mathlib.Data.List.Basic
import Mathlib.Data.Option.Basic

namespace CodeSurvey.Node

structure IsComment (c : Node) : Prop where
  kind : c.kind = "comment"
  named : c.named = true
  role : c.role = none
  leaf : c.children = []

inductive Commented : List Node → List Node → Prop where
  | nil : Commented [] []
  | insert {c : Node} {ns ms : List Node} (hc : c.IsComment) (rest : Commented ns ms) :
      Commented ns (c :: ms)
  | keep {n m : Node} {ns ms : List Node} (kind : m.kind = n.kind) (named : m.named = n.named)
      (role : m.role = n.role)
      (text : m.text = n.text) (children : Commented n.children m.children)
        (rest : Commented ns ms) :
      Commented (n :: ns) (m :: ms)

structure WithComments (n m : Node) : Prop where
  kind : m.kind = n.kind
  named : m.named = n.named
  role : m.role = n.role
  text : m.text = n.text
  children : Commented n.children m.children

variable {n m : Node} {ns ms : List Node} {p : Node → Bool} {β : Type}

namespace Commented

theorem append {ns' ms' : List Node} (h : Commented ns ms) (h' : Commented ns' ms') :
    Commented (ns ++ ns') (ms ++ ms') := by
  induction h with
  | nil => exact h'
  | insert hc _ ih => exact .insert hc ih
  | keep kind named role text children _ _ ih => exact .keep kind named role text children ih

theorem flatMap_eq {f : Node → List β} (hcomment : ∀ c : Node, c.IsComment → f c = [])
    (hsame : ∀ n m : Node, n.WithComments m → f m = f n) (h : Commented ns ms) :
    ms.flatMap f = ns.flatMap f := by
  induction h with
  | nil => rfl
  | insert hc _ ih => rw [List.flatMap_cons, hcomment _ hc, List.nil_append, ih]
  | keep kind named role text children _ _ ih =>
      rw [List.flatMap_cons, List.flatMap_cons, hsame _ _ ⟨kind, named, role, text, children⟩, ih]

theorem filterMap_eq {f : Node → Option β} (hcomment : ∀ c : Node, c.IsComment → f c = none)
    (hsame : ∀ n m : Node, n.WithComments m → f m = f n) (h : Commented ns ms) :
    ms.filterMap f = ns.filterMap f := by
  rw [List.filterMap_eq_flatMap_toList, List.filterMap_eq_flatMap_toList]
  apply h.flatMap_eq
  · intro c hc
    rw [hcomment c hc, Option.toList_none]
  · intro n m hnm
    rw [hsame n m hnm]

theorem any_eq (hcomment : ∀ c : Node, c.IsComment → p c = false)
    (hsame : ∀ n m : Node, n.WithComments m → p m = p n) (h : Commented ns ms) :
    ms.any p = ns.any p := by
  induction h with
  | nil => rfl
  | insert hc _ ih => rw [List.any_cons, hcomment _ hc, Bool.false_or, ih]
  | keep kind named role text children _ _ ih =>
      rw [List.any_cons, List.any_cons, hsame _ _ ⟨kind, named, role, text, children⟩, ih]

theorem filter (hsame : ∀ n m : Node, n.WithComments m → p m = p n) (h : Commented ns ms) :
    Commented (ns.filter p) (ms.filter p) := by
  induction h with
  | nil => exact .nil
  | @insert c ns ms hc _ ih =>
      cases hp : p c with
      | true =>
          rw [List.filter_cons_of_pos hp]
          exact .insert hc ih
      | false =>
          rw [List.filter_cons_of_neg (by simp [hp])]
          exact ih
  | @keep n m ns ms kind named role text children _ _ ih =>
      have hm := hsame n m ⟨kind, named, role, text, children⟩
      cases hp : p n with
      | true =>
          rw [List.filter_cons_of_pos hp, List.filter_cons_of_pos (hm.trans hp)]
          exact .keep kind named role text children ih
      | false =>
          rw [List.filter_cons_of_neg (by simp [hp]), List.filter_cons_of_neg (by simp [hm, hp])]
          exact ih

theorem flatMap_filter_kind {kind : String} {f : Node → List β} (hkind : kind ≠ "comment")
    (hsame : ∀ n m : Node, n.WithComments m → f m = f n) (h : Commented ns ms) :
    (ms.filter (·.kind == kind)).flatMap f = (ns.filter (·.kind == kind)).flatMap f := by
  induction h with
  | nil => rfl
  | insert hc _ ih =>
      have hother : ("comment" == kind) = false := beq_eq_false_iff_ne.2 hkind.symm
      rw [List.filter_cons, hc.kind, hother, if_neg Bool.false_ne_true, ih]
  | @keep n m ns ms hsamekind named role text children _ _ ih =>
      rw [List.filter_cons, List.filter_cons, hsamekind]
      split
      · rw [List.flatMap_cons, List.flatMap_cons,
          hsame n m ⟨hsamekind, named, role, text, children⟩, ih]
      · exact ih

theorem map_filter_kind {kind : String} {f : Node → β} (hkind : kind ≠ "comment")
    (hsame : ∀ n m : Node, n.WithComments m → f m = f n) (h : Commented ns ms) :
    (ms.filter (·.kind == kind)).map f = (ns.filter (·.kind == kind)).map f := by
  rw [List.map_eq_flatMap, List.map_eq_flatMap]
  apply h.flatMap_filter_kind hkind
  intro n m hnm
  rw [hsame n m hnm]

theorem find? (hcomment : ∀ c : Node, c.IsComment → p c = false)
    (hsame : ∀ n m : Node, n.WithComments m → p m = p n) (h : Commented ns ms) :
    Option.Rel WithComments (ns.find? p) (ms.find? p) := by
  induction h with
  | nil => exact .none
  | @insert c ns ms hc _ ih =>
      rw [List.find?_cons_of_neg (by simp [hcomment c hc])]
      exact ih
  | @keep n m ns ms kind named role text children _ _ ih =>
      have hnode : n.WithComments m := ⟨kind, named, role, text, children⟩
      cases hp : p n with
      | true =>
          rw [List.find?_cons_of_pos hp, List.find?_cons_of_pos ((hsame n m hnode).trans hp)]
          exact .some hnode
      | false =>
          rw [List.find?_cons_of_neg (by simp [hp]),
            List.find?_cons_of_neg (by simp [hsame n m hnode, hp])]
          exact ih

theorem walkPending (h : Commented ns ms) : Commented (walkPending ns) (walkPending ms) := by
  induction ms using walkPending.induct generalizing ns with
  | case1 =>
      cases h with
      | nil => simpa [Node.walkPending] using Commented.nil
  | case2 m ms ih =>
      rw [Node.walkPending.eq_2 m ms]
      cases h with
      | insert hc rest =>
          rw [hc.leaf, List.nil_append] at ih ⊢
          exact .insert hc (ih rest)
      | @keep n _ ns _ kind named role text children rest =>
          rw [Node.walkPending.eq_2 n ns]
          exact .keep kind named role text children (ih (children.append rest))

end Commented

namespace WithComments

theorem walk (h : n.WithComments m) : Commented n.walk m.walk :=
  (Commented.keep h.kind h.named h.role h.text h.children .nil).walkPending

theorem child? (h : n.WithComments m) (role : String) :
    Option.Rel WithComments (n.child? role) (m.child? role) := by
  apply h.children.find?
  · intro c hc
    rw [hc.role]
    rfl
  · intro n m hnm
    rw [hnm.role]

theorem namedChildren (h : n.WithComments m) : Commented n.namedChildren m.namedChildren := by
  apply h.children.filter
  intro n m hnm
  exact hnm.named

theorem hasChild (h : n.WithComments m) {kind : String} (hkind : kind ≠ "comment") :
    m.hasChild kind = n.hasChild kind := by
  apply h.children.any_eq
  · intro c hc
    rw [hc.kind, beq_eq_false_iff_ne]
    exact hkind.symm
  · intro n m hnm
    rw [hnm.kind]

section Found

variable {a b : Option Node}

theorem found_cases (h : Option.Rel WithComments a b) :
    (a = none ∧ b = none) ∨ ∃ n m, a = some n ∧ b = some m ∧ n.WithComments m := by
  cases h with
  | none => exact .inl ⟨rfl, rfl⟩
  | some h => exact .inr ⟨_, _, rfl, rfl, h⟩

theorem bind_of_found {f : Node → Option β} (hsame : ∀ n m : Node, n.WithComments m → f m = f n)
    (h : Option.Rel WithComments a b) : b.bind f = a.bind f := by
  cases h with
  | none => rfl
  | some h => exact hsame _ _ h

theorem map_of_found {f : Node → β} (hsame : ∀ n m : Node, n.WithComments m → f m = f n)
    (h : Option.Rel WithComments a b) : b.map f = a.map f := by
  rw [Option.map_eq_bind, Option.map_eq_bind]
  apply bind_of_found _ h
  intro n m hnm
  rw [Function.comp_apply, Function.comp_apply, hsame n m hnm]

theorem textOf_of_found (h : Option.Rel WithComments a b) : textOf b = textOf a := by
  rw [textOf, textOf, bind_of_found (fun _ _ hnode => hnode.text) h]

theorem valueOf_of_found (h : Option.Rel WithComments a b) : valueOf b = valueOf a := by
  rw [valueOf, valueOf, textOf_of_found h]

end Found

theorem itemNames (h : n.WithComments m) {kind : String} (hkind : kind ≠ "comment") :
    (m.namedChildren.filter (·.kind == kind)).map (fun item => textOf (item.child? "name"))
      = (n.namedChildren.filter (·.kind == kind)).map fun item => textOf (item.child? "name") := by
  apply h.namedChildren.map_filter_kind hkind
  intro n m hnm
  exact textOf_of_found (hnm.child? "name")

end WithComments

end CodeSurvey.Node
