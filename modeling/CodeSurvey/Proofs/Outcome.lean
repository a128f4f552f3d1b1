import CodeSurvey.Fault
import Mathlib.Data.List.Forall2

namespace CodeSurvey.Outcome

variable {ε α β γ : Type}

@[simp]
theorem ok_bind (a : α) (f : α → Except ε β) : (Except.ok a >>= f) = f a := rfl

@[simp]
theorem error_bind (e : ε) (f : α → Except ε β) : (Except.error e >>= f) = .error e := rfl

@[simp]
theorem pure_eq (a : α) : (pure a : Except ε α) = .ok a := rfl

@[simp]
theorem map_ok (f : α → β) (a : α) : f <$> (Except.ok a : Except ε α) = .ok (f a) := rfl

@[simp]
theorem map_error (f : α → β) (e : ε) : f <$> (Except.error e : Except ε α) = .error e := rfl

theorem bind_eq_ok {x : Except ε α} {f : α → Except ε β} {b : β} :
    x >>= f = .ok b ↔ ∃ a, x = .ok a ∧ f a = .ok b := by
  cases x with
  | error e => simp
  | ok a => simp

theorem map_eq_ok {x : Except ε α} {f : α → β} {b : β} :
    f <$> x = .ok b ↔ ∃ a, x = .ok a ∧ f a = b := by
  cases x with
  | error e => simp
  | ok a => simp

theorem map_eq_error {x : Except ε α} {f : α → β} {e : ε} : f <$> x = .error e ↔ x = .error e := by
  cases x with
  | error e => simp
  | ok a => simp

theorem bind_congr_of_map {x y : Except ε α} {f g : α → Except ε β} {k : α → γ}
    (h : k <$> x = k <$> y) (hstep : ∀ a b, x = .ok a → y = .ok b → k a = k b → f a = g b) :
    x >>= f = y >>= g := by
  cases x with
  | error e =>
      obtain rfl := map_eq_error.1 h.symm
      rfl
  | ok a =>
      obtain ⟨b, rfl, hb⟩ := map_eq_ok.1 h.symm
      exact hstep a b rfl rfl hb.symm

theorem map_congr_of_map {x y : Except ε α} {f : α → β} {k : α → γ} (h : k <$> x = k <$> y)
    (hstep : ∀ a b, k a = k b → f a = f b) : f <$> x = f <$> y := by
  rw [map_eq_pure_bind, map_eq_pure_bind]
  exact bind_congr_of_map h fun a b _ _ hab => congrArg Except.ok (hstep a b hab)

theorem isOk_iff {x : Except ε α} : x.isOk = true ↔ ∃ a, x = .ok a := by
  cases x <;> simp [Except.isOk, Except.toBool]

theorem toOption_eq_some {x : Except ε α} {a : α} : x.toOption = some a ↔ x = .ok a := by
  cases x with
  | error e => simp [Except.toOption]
  | ok b => simp [Except.toOption]

theorem mapM_eq_ok_iff {f : α → Except ε β} {items : List α} {found : List β} :
    items.mapM f = .ok found ↔ List.Forall₂ (fun x y => f x = .ok y) items found := by
  induction items generalizing found with
  | nil =>
      rw [List.mapM_nil, List.forall₂_nil_left_iff, pure_eq, Except.ok.injEq, eq_comm]
  | cons x rest ih =>
      rw [List.mapM_cons, List.forall₂_cons_left_iff]
      constructor
      · intro h
        obtain ⟨first, hfirst, h⟩ := bind_eq_ok.1 h
        obtain ⟨others, hothers, h⟩ := bind_eq_ok.1 h
        exact ⟨first, others, hfirst, ih.1 hothers, (Except.ok.inj h).symm⟩
      · rintro ⟨first, others, hfirst, hothers, rfl⟩
        rw [hfirst, ok_bind, ih.2 hothers, ok_bind, pure_eq]

theorem mem_of_mapM_eq_ok {f : α → Except ε β} {items : List α} {found : List β}
    (h : items.mapM f = .ok found) : ∀ y ∈ found, ∃ x ∈ items, f x = .ok y := by
  intro y hy
  obtain ⟨n, hn, rfl⟩ := List.mem_iff_getElem.1 hy
  have hforall := mapM_eq_ok_iff.1 h
  have hitems : n < items.length := hforall.length_eq ▸ hn
  exact ⟨items[n], List.getElem_mem hitems, hforall.get hitems hn⟩

theorem filterMap_toOption {f : α → Except ε β} {items : List α} {found : List β}
    (h : items.mapM f = .ok found) : items.filterMap (fun x => (f x).toOption) = found := by
  rw [mapM_eq_ok_iff] at h
  induction h with
  | nil => rfl
  | cons hfirst _ ih => rw [List.filterMap_cons_some (by rw [hfirst]; rfl), ih]

theorem mapM_ok {f : α → Except ε β} {g : α → β} {items : List α}
    (h : ∀ x ∈ items, f x = .ok (g x)) :
    items.mapM f = .ok (items.map g) := by
  rw [mapM_eq_ok_iff, List.forall₂_map_right_iff, List.forall₂_same]
  exact h

theorem foldlM_preserves {f : β → α → Except ε β} {items : List α} (P : β → Prop)
    (hstep : ∀ acc, ∀ x ∈ items, ∀ acc', P acc → f acc x = .ok acc' → P acc') {acc found : β}
    (hacc : P acc) (h : items.foldlM f acc = .ok found) : P found := by
  induction items generalizing acc with
  | nil => exact Except.ok.inj h ▸ hacc
  | cons x rest ih =>
      rw [List.foldlM_cons] at h
      obtain ⟨acc', hacc', h⟩ := bind_eq_ok.1 h
      exact ih (fun acc y hy => hstep acc y (List.mem_cons_of_mem _ hy))
        (hstep acc x List.mem_cons_self acc' hacc hacc') h

theorem filterMap_ite (p : α → Bool) (f : α → β) (items : List α) :
    (items.map fun x => if p x then some (f x) else none).filterMap id
      = (items.filter p).map f := by
  induction items with
  | nil => rfl
  | cons x rest ih =>
      rw [List.map_cons]
      cases h : p x with
      | true =>
          rw [if_pos rfl, List.filterMap_cons_some (f := id) rfl, List.filter_cons_of_pos h,
            List.map_cons, ih]
      | false =>
          rw [if_neg Bool.false_ne_true, List.filterMap_cons_none rfl,
            List.filter_cons_of_neg (by simp [h]), ih]

end CodeSurvey.Outcome

namespace CodeSurvey

inductive Fault.SameKind : Fault → Fault → Prop where
  | same (f : Fault) : SameKind f f
  | notFound (place place' : String) :
      SameKind (.manifest (.notFound place)) (.manifest (.notFound place'))
  | unreadable (place place' reason reason' : String) :
      SameKind (.manifest (.unreadable place reason)) (.manifest (.unreadable place' reason'))
  | notObject (place place' : String) :
      SameKind (.manifest (.notObject place)) (.manifest (.notObject place'))

namespace Outcome

variable {α β γ δ : Type}

inductive Agree (R : α → β → Prop) : Except Fault α → Except Fault β → Prop where
  | ok {a : α} {b : β} (h : R a b) : Agree R (.ok a) (.ok b)
  | error {f g : Fault} (h : f.SameKind g) : Agree R (.error f) (.error g)

namespace Agree

variable {R : α → β → Prop} {S : γ → δ → Prop} {x : Except Fault α} {y : Except Fault β}

theorem of_eq {x y : Except Fault α} (h : x = y) : Agree Eq x y := by
  subst h
  cases x with
  | error f => exact .error (.same f)
  | ok a => exact .ok rfl

theorem cases (h : Agree R x y) :
    (∃ a b, x = .ok a ∧ y = .ok b ∧ R a b) ∨ ∃ f g, x = .error f ∧ y = .error g ∧ f.SameKind g := by
  cases h with
  | ok h => exact .inl ⟨_, _, rfl, rfl, h⟩
  | error h => exact .inr ⟨_, _, rfl, rfl, h⟩

theorem rel {a : α} {b : β} (h : Agree R (.ok a) (.ok b)) : R a b := by
  cases h with
  | ok h => exact h

theorem eq_ok {a : α} {y : Except Fault α} (h : Agree Eq (.ok a) y) : y = .ok a := by
  cases h with
  | ok h => rw [h]

theorem bind {f : α → Except Fault γ} {g : β → Except Fault δ} (h : Agree R x y)
    (hstep : ∀ a b, x = .ok a → y = .ok b → R a b → Agree S (f a) (g b)) :
    Agree S (x >>= f) (y >>= g) := by
  cases h with
  | ok h => exact hstep _ _ rfl rfl h
  | error h => exact .error h

theorem map {f : α → γ} {g : β → δ} (h : Agree R x y) (hstep : ∀ a b, R a b → S (f a) (g b)) :
    Agree S (f <$> x) (g <$> y) := by
  cases h with
  | ok h => exact .ok (hstep _ _ h)
  | error h => exact .error h

end Agree

end Outcome

end CodeSurvey
