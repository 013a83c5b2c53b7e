import CestaPlan.Library.Dict
import Mathlib.Algebra.Field.Basic
import Mathlib.Data.Option.Basic

/-! Tables of rates between units, entered in both directions at a time, and searches through them from either side. -/

namespace CestaPlan.TwoWay
variable {ν υ K : Type}

section Entries
variable [DecidableEq ν] [DecidableEq υ] {l : List ((ν × υ × υ) × K)}

theorem setEntries_self (k : ν × υ × υ) (v w : K) : Dict.setEntries k v ((k, w) :: l) = (k, v) :: l := by
  rw [Dict.setEntries, if_pos rfl]

theorem setEntries_of_ne {k k' : ν × υ × υ} (h : k' ≠ k) (v w : K) :
    Dict.setEntries k v ((k', w) :: l) = (k', w) :: Dict.setEntries k v l := by
  rw [Dict.setEntries, if_neg h]

end Entries

variable [Field K]

/-- The entries come in pairs, a rate and its inverse, but for those of a unit with itself. -/
inductive Twinned : List ((ν × υ × υ) × K) → Prop
  | nil : Twinned []
  | own {n : ν} {u : υ} {a : K} {l : List ((ν × υ × υ) × K)} : Twinned l → Twinned (((n, u, u), a) :: l)
  | pair {n : ν} {f t : υ} {a b : K} {l : List ((ν × υ × υ) × K)} (hne : f ≠ t) (hone : a * b = 1) :
      Twinned l → Twinned (((n, f, t), a) :: ((n, t, f), b) :: l)

variable {l : List ((ν × υ × υ) × K)} {n : ν} {f t : υ} {a b : K}

theorem Twinned.declare [DecidableEq ν] [DecidableEq υ] (h : Twinned l) (n : ν) (f t : υ) (hone : a * b = 1) :
    Twinned (Dict.setEntries (n, t, f) b (Dict.setEntries (n, f, t) a l)) := by
  by_cases hft : f = t
  · rw [hft]
    induction h with
    | nil =>
      rw [Dict.setEntries, setEntries_self]
      exact .own .nil
    | @own m u c l hl ih =>
      by_cases hkey : (m, u, u) = (n, t, t)
      · rw [hkey, setEntries_self, setEntries_self]
        exact .own hl
      · rw [setEntries_of_ne hkey, setEntries_of_ne hkey]
        exact .own ih
    | @pair m g h c d l hne hcd hl ih =>
      have hfirst : (m, g, h) ≠ (n, t, t) := fun heq => hne (by cases heq; rfl)
      have hsecond : (m, h, g) ≠ (n, t, t) := fun heq => hne (by cases heq; rfl)
      rw [setEntries_of_ne hfirst, setEntries_of_ne hsecond, setEntries_of_ne hfirst, setEntries_of_ne hsecond]
      exact .pair hne hcd ih
  · have hkeys : (n, f, t) ≠ (n, t, f) := fun heq => hft (by cases heq; rfl)
    induction h with
    | nil =>
      rw [Dict.setEntries, setEntries_of_ne hkeys, Dict.setEntries]
      exact .pair hft hone .nil
    | @own m u c l hl ih =>
      have hto : (m, u, u) ≠ (n, f, t) := fun heq => hft (by cases heq; rfl)
      have hback : (m, u, u) ≠ (n, t, f) := fun heq => hft (by cases heq; rfl)
      rw [setEntries_of_ne hto, setEntries_of_ne hback]
      exact .own ih
    | @pair m g h c d l hne hcd hl ih =>
      by_cases hto : (m, g, h) = (n, f, t)
      · obtain ⟨rfl, rfl, rfl⟩ : m = n ∧ g = f ∧ h = t := by simpa using hto
        rw [setEntries_self, setEntries_of_ne hkeys, setEntries_self]
        exact .pair hne hone hl
      · by_cases hback : (m, g, h) = (n, t, f)
        · obtain ⟨rfl, rfl, rfl⟩ : m = n ∧ g = t ∧ h = f := by simpa using hback
          rw [setEntries_of_ne hkeys.symm, setEntries_self, setEntries_self]
          exact .pair hne (by rw [mul_comm, hone]) hl
        · have hto' : (m, h, g) ≠ (n, t, f) := fun heq => hto (by cases heq; rfl)
          have hback' : (m, h, g) ≠ (n, f, t) := fun heq => hback (by cases heq; rfl)
          rw [setEntries_of_ne hto, setEntries_of_ne hback', setEntries_of_ne hback, setEntries_of_ne hto']
          exact .pair hne hcd ih

theorem Twinned.mem_back (h : Twinned l) (hft : f ≠ t) (ha : ((n, f, t), a) ∈ l) : ∃ b, ((n, t, f), b) ∈ l ∧ a * b = 1 := by
  induction h with
  | nil => cases ha
  | own hl ih =>
    rcases List.mem_cons.mp ha with heq | ha
    · cases heq
      exact absurd rfl hft
    · obtain ⟨b, hb, hone⟩ := ih ha
      exact ⟨b, List.mem_cons_of_mem _ hb, hone⟩
  | @pair m g h c d l hne hcd hl ih =>
    rcases List.mem_cons.mp ha with heq | ha
    · cases heq
      exact ⟨d, List.mem_cons_of_mem _ List.mem_cons_self, hcd⟩
    · rcases List.mem_cons.mp ha with heq | ha
      · cases heq
        exact ⟨c, List.mem_cons_self, by rw [mul_comm, hcd]⟩
      · obtain ⟨b, hb, hone⟩ := ih ha
        exact ⟨b, List.mem_cons_of_mem _ (List.mem_cons_of_mem _ hb), hone⟩

/-- A search that takes one direction of a pair at most finds from the other side the twin of what it finds from this one. -/
theorem Twinned.search {β : Type} {there back : (ν × υ × υ) × K → Option β} {R : β → β → Prop} (h : Twinned l)
    (hown : ∀ n u a, there ((n, u, u), a) = none ∧ back ((n, u, u), a) = none)
    (htwin : ∀ n f t a b, a * b = 1 → Option.Rel R (there ((n, f, t), a)) (back ((n, t, f), b)))
    (hsole : ∀ n f t a b, (there ((n, f, t), a)).isSome → there ((n, t, f), b) = none) :
    Option.Rel R (l.findSome? there) (l.findSome? back) := by
  induction h with
  | nil => exact .none
  | @own m u c l hl ih =>
    rw [List.findSome?_cons_of_isNone (by rw [(hown m u c).1]; rfl), List.findSome?_cons_of_isNone (by rw [(hown m u c).2]; rfl)]
    exact ih
  | @pair m g h c d l hne hcd hl ih =>
    have hto := htwin m g h c d hcd
    have hback := htwin m h g d c (by rw [mul_comm, hcd])
    rw [List.findSome?_cons, List.findSome?_cons, List.findSome?_cons, List.findSome?_cons]
    cases hc : there ((m, g, h), c) with
    | some x =>
      have hnone := hsole m g h c d (by rw [hc]; rfl)
      rw [hnone] at hback
      rw [hc] at hto
      cases hd : back ((m, g, h), c) with
      | some y => rw [hd] at hback; cases hback
      | none =>
        cases hy : back ((m, h, g), d) with
        | none => rw [hy] at hto; cases hto
        | some y => rw [hy] at hto; exact hto
    | none =>
      rw [hc] at hto
      cases hd : back ((m, h, g), d) with
      | some y => rw [hd] at hto; cases hto
      | none =>
        cases hx : there ((m, h, g), d) with
        | none =>
          rw [hx] at hback
          cases hy : back ((m, g, h), c) with
          | some y => rw [hy] at hback; cases hback
          | none => exact ih
        | some x =>
          rw [hx] at hback
          cases hy : back ((m, g, h), c) with
          | none => rw [hy] at hback; cases hback
          | some y => rw [hy] at hback; exact hback

end CestaPlan.TwoWay
