import Mathlib.Algebra.Order.Group.Defs
import Mathlib.Algebra.Order.Group.Basic
import Mathlib.Data.List.Count

/-! Sliding windows over times that are recorded one after another. -/

namespace CestaPlan.Windows
variable {τ : Type} [AddCommGroup τ] [LinearOrder τ]

/-- The times that still count at `now`: those less than `w` before it. -/
def recent (w now : τ) (ts : List τ) : List τ := ts.filter (now - w < ·)

/-- How many of the times lie in the interval `(a, a + w]`. -/
def within (w a : τ) (ts : List τ) : ℕ := ts.countP fun t => a < t ∧ t ≤ a + w

variable {w now now' a t : τ} {ts ts' : List τ}

@[simp] theorem recent_nil : recent w now [] = [] := rfl

@[simp] theorem within_nil : within w a [] = 0 := rfl

theorem recent_append : recent w now (ts ++ ts') = recent w now ts ++ recent w now ts' := List.filter_append ..

theorem length_recent_concat_le : (recent w now (ts ++ [t])).length ≤ (recent w now ts).length + 1 := by
  rw [recent_append, List.length_append]
  exact Nat.add_le_add_left (List.length_filter_le _ _) _

/-- Of times that are past, those that count at `now` are those in the interval that ends there. -/
theorem within_sub_eq (h : ∀ t ∈ ts, t ≤ now) : within w (now - w) ts = (recent w now ts).length := by
  rw [within, recent, List.countP_eq_length_filter]
  refine congrArg _ (List.filter_congr fun t ht => ?_)
  have hle : t ≤ now - w + w := (sub_add_cancel now w).symm ▸ h t ht
  exact decide_eq_decide.mpr (and_iff_left hle)

variable [IsOrderedAddMonoid τ]

theorem recent_recent (h : now ≤ now') : recent w now' (recent w now ts) = recent w now' ts := by
  rw [recent, recent, recent, List.filter_filter]
  refine List.filter_congr fun t _ => ?_
  have hle : now - w ≤ now' - w := sub_le_sub_right h w
  by_cases ht : now' - w < t
  · simp [ht, hle.trans_lt ht]
  · simp [ht]

theorem length_recent_le (h : now ≤ now') : (recent w now' ts).length ≤ (recent w now ts).length := by
  rw [← recent_recent h]
  exact List.length_filter_le _ _

/-- An interval that a new time enters counts at most what counts at that time, and the time itself. -/
theorem within_concat_le {n : ℕ} (h : within w a ts ≤ n) (hrecent : (recent w now ts).length + 1 ≤ n) :
    within w a (ts ++ [now]) ≤ n := by
  rw [within, List.countP_append, List.countP_singleton]
  by_cases hin : a < now ∧ now ≤ a + w
  · rw [if_pos (decide_eq_true hin)]
    have hle : ts.countP (fun t => a < t ∧ t ≤ a + w) ≤ (recent w now ts).length := by
      rw [recent, ← List.countP_eq_length_filter]
      refine List.countP_mono_left fun t _ ht => ?_
      exact decide_eq_true ((sub_le_iff_le_add.mpr hin.2).trans_lt (of_decide_eq_true ht).1)
    omega
  · rw [if_neg (by simpa using hin)]
    exact h

end CestaPlan.Windows
