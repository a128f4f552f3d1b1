import CodeSurvey.Proofs.Path
import Mathlib.Data.List.Chain
import Mathlib.Data.List.Induction
import Mathlib.Logic.Relation

namespace CodeSurvey.Path

variable {way place next : List String}

inductive Cancels : List String → List String → Prop where
  | pair (above below : List String) {name : String} (h : name ≠ "..") :
      Cancels (above ++ name :: ".." :: below) (above ++ below)

structure LeadsTo (way place : List String) : Prop where
  cancels : Relation.ReflTransGen Cancels (proper way) place
  finished : ∀ next, ¬Cancels place next

def Climbs (place : List String) : Prop :=
  place.IsChain fun first second => second = ".." → first = ".."

theorem climbs_iff : Climbs place ↔ ∀ next, ¬Cancels place next := by
  rw [Climbs, List.isChain_iff_forall_rel_of_append_cons_cons]
  constructor
  · rintro h next ⟨above, below, hname⟩
    exact hname (h rfl rfl)
  · rintro h first second above below rfl rfl
    by_contra hname
    exact h _ (.pair above below hname)

section Stack

variable {done : List String} {segment : String}

theorem climb_of_ne (rooted : Bool) (done : List String) (h : segment ≠ "..") :
    climb rooted done segment = segment :: done :=
  if_pos (by simp [h])

theorem climb_dots_of_ne (rooted : Bool) (done : List String) (h : segment ≠ "..") :
    climb rooted (segment :: done) ".." = done := by
  simp [climb, h]

theorem climb_cases (done : List String) (segment : String) :
    (climb false done segment = segment :: done ∧ (segment = ".." → ∀ top ∈ done.head?, top = ".."))
      ∨ ∃ name rest, name ≠ ".." ∧ segment = ".." ∧ done = name :: rest
      ∧ climb false done segment = rest := by
  by_cases hdots : segment = ".."
  · subst hdots
    cases done with
    | nil => exact .inl ⟨rfl, fun _ _ h => absurd h (by simp)⟩
    | cons name rest =>
        by_cases hname : name = ".."
        · subst hname
          exact .inl ⟨rfl, fun _ _ h => (Option.some.inj h).symm⟩
        · exact .inr ⟨name, rest, hname, rfl, rfl, climb_dots_of_ne false rest hname⟩
  · exact .inl ⟨climb_of_ne false done hdots, fun h => absurd h hdots⟩

theorem cancels_climb (done : List String) (segment : String) (way : List String) :
    Relation.ReflTransGen Cancels (done.reverse ++ segment :: way)
      ((climb false done segment).reverse ++ way) := by
  rcases climb_cases done segment with ⟨hstep, -⟩ | ⟨name, rest, hname, rfl, rfl, hstep⟩
  · rw [hstep, List.reverse_cons, List.append_assoc, List.singleton_append]
  · rw [hstep, List.reverse_cons, List.append_assoc, List.singleton_append]
    exact .single (.pair rest.reverse way hname)

theorem cancels_foldl_climb (done way : List String) :
    Relation.ReflTransGen Cancels (done.reverse ++ way) (way.foldl (climb false) done).reverse := by
  induction way generalizing done with
  | nil => rw [List.append_nil, List.foldl_nil]
  | cons segment rest ih =>
      exact (cancels_climb done segment rest).trans (ih (climb false done segment))

theorem climbs_climb (h : Climbs done.reverse) (segment : String) :
    Climbs (climb false done segment).reverse := by
  rcases climb_cases done segment with ⟨hstep, htop⟩ | ⟨name, rest, -, -, rfl, hstep⟩
  · rw [hstep, Climbs, List.reverse_cons, List.isChain_append]
    refine ⟨h, List.isChain_singleton _, fun top htop' second hsecond hdots => ?_⟩
    obtain rfl := Option.some.inj hsecond
    rw [List.getLast?_reverse] at htop'
    exact htop hdots top htop'
  · rw [hstep]
    rw [Climbs, List.reverse_cons] at h
    exact h.left_of_append

theorem climbs_foldl_climb (h : Climbs done.reverse) (way : List String) :
    Climbs (way.foldl (climb false) done).reverse := by
  induction way generalizing done with
  | nil => exact h
  | cons segment rest ih => exact ih (climbs_climb h segment)

theorem foldl_climb_of_cancels (h : Cancels way next) (done : List String) :
    way.foldl (climb false) done = next.foldl (climb false) done := by
  obtain ⟨above, below, hname⟩ := h
  rw [List.foldl_append, List.foldl_append, List.foldl_cons, List.foldl_cons,
    climb_of_ne false _ hname, climb_dots_of_ne false _ hname]

theorem foldl_climb_of_reaches (h : Relation.ReflTransGen Cancels way place) (done : List String) :
    way.foldl (climb false) done = place.foldl (climb false) done := by
  induction h with
  | refl => rfl
  | tail _ hlast ih => rw [ih, foldl_climb_of_cancels hlast]

theorem foldl_climb_of_climbs (h : Climbs place) :
    place.foldl (climb false) [] = place.reverse := by
  induction place using List.reverseRecOn with
  | nil => rfl
  | append_singleton place segment ih =>
      rw [Climbs, List.isChain_append] at h
      obtain ⟨hplace, -, hlast⟩ := h
      rw [List.foldl_append, ih hplace, List.reverse_append, List.foldl_cons, List.foldl_nil]
      rcases climb_cases place.reverse segment with ⟨hstep, -⟩ | ⟨name, rest, hname, rfl, hrest, -⟩
      · rw [hstep, List.reverse_singleton, List.singleton_append]
      · have hlast? : name ∈ place.getLast? := by
          rw [← List.head?_reverse, hrest]
          rfl
        exact absurd (hlast name hlast? ".." rfl rfl) hname

end Stack

theorem leadsTo_resolve (way : List String) : LeadsTo way (resolveSegments false way) := by
  have hnothing : Climbs (List.reverse []) := List.isChain_nil
  exact ⟨cancels_foldl_climb [] (proper way),
    climbs_iff.1 (climbs_foldl_climb hnothing (proper way))⟩

theorem leadsTo_iff : LeadsTo way place ↔ resolveSegments false way = place := by
  constructor
  · rintro ⟨hcancels, hfinished⟩
    rw [resolveSegments, foldl_climb_of_reaches hcancels,
      foldl_climb_of_climbs (climbs_iff.2 hfinished), List.reverse_reverse]
  · rintro rfl
    exact leadsTo_resolve way

theorem existsUnique_leadsTo (way : List String) : ∃! place, LeadsTo way place :=
  ⟨_, leadsTo_resolve way, fun _ h => (leadsTo_iff.1 h).symm⟩

theorem mem_of_cancels (h : Cancels way next) {segment : String} (hsegment : segment ∈ next) :
    segment ∈ way := by
  obtain ⟨above, below, -⟩ := h
  rcases List.mem_append.1 hsegment with hsegment | hsegment
  · exact List.mem_append_left _ hsegment
  · exact List.mem_append_right _ (List.mem_cons_of_mem _ (List.mem_cons_of_mem _ hsegment))

theorem LeadsTo.subset (h : LeadsTo way place) : place ⊆ proper way := by
  intro segment hsegment
  have hstep {before after : List String} (hreach : Relation.ReflTransGen Cancels before after) :
      segment ∈ after → segment ∈ before := by
    intro hafter
    induction hreach with
    | refl => exact hafter
    | tail _ hlast ih => exact ih (mem_of_cancels hlast hafter)
  exact hstep h.cancels hsegment

end CodeSurvey.Path
