import Mathlib.Algebra.BigOperators.Group.List.Basic
import Mathlib.Algebra.Order.BigOperators.Group.List
import Mathlib.Algebra.Order.Field.Basic
import Mathlib.Algebra.Order.Floor.Ring
import Mathlib.Algebra.Order.Group.MinMax
import Mathlib.Tactic.GCongr
import Mathlib.Tactic.Linarith
import Mathlib.Tactic.Positivity
import Mathlib.Tactic.Ring

/-! Arithmetic that rounds after every operation. A value that went through `n` roundings is off by at most what `n` relative errors
    can compound to, beside a bound on the sizes of what was added up. -/

namespace CestaPlan.RoundedSums
variable {K : Type} [Field K] [LinearOrder K] [IsStrictOrderedRing K]

/-- What `n` relative errors of at most `u` compound to. -/
def growth (u : K) (n : ℕ) : K := (1 + u) ^ n - 1

/-- `a` is `x` after at most `n` roundings, where `size` bounds what `x` was added up from. -/
structure Near (u : K) (n : ℕ) (size a x : K) : Prop where
  bounded : |x| ≤ size
  error : |a - x| ≤ growth u n * size

section Rules
variable {u size size' a b x y c : K} {n m : ℕ}

theorem growth_nonneg (hu : 0 ≤ u) : 0 ≤ growth u n := sub_nonneg.mpr (one_le_pow₀ (by linarith))

theorem growth_mono (hu : 0 ≤ u) (h : n ≤ m) : growth u n ≤ growth u m :=
  sub_le_sub_right (pow_le_pow_right₀ (by linarith) h) 1

omit [LinearOrder K] [IsStrictOrderedRing K] in
theorem growth_succ : growth u (n + 1) = u * (1 + growth u n) + growth u n := by
  unfold growth
  ring

theorem Near.size_nonneg (h : Near u n size a x) : 0 ≤ size := (abs_nonneg x).trans h.bounded

theorem Near.refl (hu : 0 ≤ u) (x : K) : Near u n |x| x x :=
  ⟨le_rfl, by rw [sub_self, abs_zero]; exact mul_nonneg (growth_nonneg hu) (abs_nonneg x)⟩

theorem Near.mono (hu : 0 ≤ u) (h : Near u n size a x) (hn : n ≤ m) : Near u m size a x :=
  ⟨h.bounded, h.error.trans (mul_le_mul_of_nonneg_right (growth_mono hu hn) h.size_nonneg)⟩

theorem Near.round {round : K → K} (hround : ∀ x, |round x - x| ≤ u * |x|) (hu : 0 ≤ u) (h : Near u n size a x) :
    Near u (n + 1) size (round a) x := by
  refine ⟨h.bounded, ?_⟩
  have ha : |a| ≤ (1 + growth u n) * size := by
    have htriangle := abs_sub_abs_le_abs_sub a x
    have := h.bounded
    have := h.error
    linarith
  calc |round a - x| ≤ |round a - a| + |a - x| := abs_sub_le _ _ _
    _ ≤ u * |a| + growth u n * size := add_le_add (hround a) h.error
    _ ≤ u * ((1 + growth u n) * size) + growth u n * size := by gcongr
    _ = growth u (n + 1) * size := by
      rw [growth_succ]
      ring

theorem Near.add (h : Near u n size a x) (h' : Near u n size' b y) : Near u n (size + size') (a + b) (x + y) := by
  refine ⟨(abs_add_le x y).trans (add_le_add h.bounded h'.bounded), ?_⟩
  rw [add_sub_add_comm, mul_add]
  exact (abs_add_le _ _).trans (add_le_add h.error h'.error)

theorem Near.sub (h : Near u n size a x) (h' : Near u n size' b y) : Near u n (size + size') (a - b) (x - y) := by
  refine ⟨(abs_sub x y).trans (add_le_add h.bounded h'.bounded), ?_⟩
  rw [sub_sub_sub_comm, mul_add]
  exact (abs_sub _ _).trans (add_le_add h.error h'.error)

theorem Near.mul (h : Near u n size a x) (c : K) : Near u n (size * |c|) (a * c) (x * c) := by
  constructor
  · rw [abs_mul]
    exact mul_le_mul_of_nonneg_right h.bounded (abs_nonneg c)
  · rw [← sub_mul, abs_mul, ← mul_assoc]
    exact mul_le_mul_of_nonneg_right h.error (abs_nonneg c)

theorem Near.cut (h : Near u n size a x) : Near u n size (max a 0) (max x 0) := by
  constructor
  · rw [abs_of_nonneg (le_max_right x 0)]
    exact (max_le (le_abs_self x) (abs_nonneg x)).trans h.bounded
  · exact (abs_max_sub_max_le_abs a x 0).trans h.error

end Rules

section Sums
variable {u : K} {n : ℕ}

/-- Sums that round at each step are near the exact ones, with one more rounding for each term. -/
theorem Near.foldl {round : K → K} (hround : ∀ x, |round x - x| ≤ u * |x|) (hu : 0 ≤ u) {as xs : List K}
    (h : List.Forall₂ (fun a x => Near u n |x| a x) as xs) :
    Near u (n + xs.length) (xs.map abs).sum (as.foldl (fun s a => round (s + a)) 0) xs.sum := by
  induction xs using List.reverseRecOn generalizing as with
  | nil =>
    obtain rfl := List.forall₂_nil_right_iff.mp h
    simpa using Near.refl (n := n) hu (0 : K)
  | append_singleton xs x ih =>
    obtain ⟨as', last, hinit, hlast, rfl⟩ : ∃ as' last, List.Forall₂ (fun a x => Near u n |x| a x) as' xs ∧
        List.Forall₂ (fun a x => Near u n |x| a x) last [x] ∧ as = as' ++ last :=
      ⟨_, _, List.forall₂_take_append _ _ _ h, List.forall₂_drop_append _ _ _ h, (List.take_append_drop _ _).symm⟩
    obtain ⟨a, _, hnear, hnil, rfl⟩ := List.forall₂_cons_right_iff.mp hlast
    obtain rfl := List.forall₂_nil_right_iff.mp hnil
    rw [List.foldl_append, List.foldl_cons, List.foldl_nil, List.map_append, List.sum_append, List.sum_append, List.length_append]
    have hsum := ((ih hinit).add (hnear.mono hu (Nat.le_add_right n xs.length))).round hround hu
    simpa [add_assoc] using hsum

end Sums

section Ceilings
variable [FloorRing K] {a x : K}

/-- Two values have the same ceiling exactly if the one exceeds the other by no more than that leaves to the ceiling, and falls
    short of it by less than that takes of its last step. -/
theorem ceil_eq_ceil_iff : ⌈a⌉ = ⌈x⌉ ↔ a - x ≤ ⌈x⌉ - x ∧ x - a < x - (⌈x⌉ - 1) := by
  rw [Int.ceil_eq_iff, sub_le_sub_iff_right, sub_lt_sub_iff_left, and_comm]

theorem ceil_eq_ceil_of_abs_sub_le {e : K} (h : |a - x| ≤ e) (hover : e ≤ ⌈x⌉ - x) (hunder : e < x - (⌈x⌉ - 1)) : ⌈a⌉ = ⌈x⌉ := by
  rw [ceil_eq_ceil_iff]
  obtain ⟨hlow, hhigh⟩ := abs_le.mp h
  constructor
  · linarith
  · linarith

end Ceilings

end CestaPlan.RoundedSums
