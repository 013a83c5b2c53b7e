import Mathlib.Algebra.Order.Floor.Div
import Mathlib.Data.Int.CardIntervalMod
import Mathlib.Order.Interval.Finset.Nat

/-! Spreading draws over a list: a rule says at which position each draw is made. A rule is level if it makes as many draws at each
    position, up to one. -/

namespace CestaPlan.Spreading
variable {α : Type} {source : List α} {rule : ℕ → ℕ} {n length : ℕ}

/-- What `n` draws take from a list. -/
def draws (source : List α) (rule : ℕ → ℕ) (n : ℕ) : List α := (List.range n).filterMap fun i => source[rule i]?

/-- Each of the first `length` positions has its share of the `n` draws, rounded down or up. -/
def Level (rule : ℕ → ℕ) (length n : ℕ) : Prop :=
  ∀ j < length, n / length ≤ Nat.count (rule · = j) n ∧ Nat.count (rule · = j) n ≤ n ⌈/⌉ length

section Draws

theorem length_draws (h : ∀ i < n, rule i < source.length) : (draws source rule n).length = n := by
  unfold draws
  rw [List.length_filterMap_eq_countP, List.countP_eq_length.mpr, List.length_range]
  intro i hi
  rw [List.getElem?_eq_getElem (h i (List.mem_range.mp hi))]
  rfl

theorem mem_of_mem_draws {a : α} (h : a ∈ draws source rule n) : a ∈ source := by
  obtain ⟨i, -, hi⟩ := List.mem_filterMap.mp h
  exact List.mem_of_getElem? hi

theorem count_draws [DecidableEq α] (hnodup : source.Nodup) {j : ℕ} (hj : j < source.length) :
    (draws source rule n).count source[j] = Nat.count (rule · = j) n := by
  unfold draws List.count Nat.count
  rw [List.countP_filterMap]
  refine List.countP_congr fun i _ => ?_
  simp only [decide_eq_true_eq]
  by_cases hi : rule i < source.length
  · rw [List.getElem?_eq_getElem hi, Option.map_some, Option.getD_some, beq_iff_eq]
    exact hnodup.getElem_inj_iff
  · rw [List.getElem?_eq_none (by omega), Option.map_none, Option.getD_none]
    simp only [Bool.false_eq_true, false_iff]
    omega

theorem Level.count_le [DecidableEq α] (h : Level rule source.length n) (hnodup : source.Nodup) {a b : α} (ha : a ∈ source)
    (hb : b ∈ source) : (draws source rule n).count a ≤ (draws source rule n).count b + 1 := by
  obtain ⟨i, hi, rfl⟩ := List.getElem_of_mem ha
  obtain ⟨j, hj, rfl⟩ := List.getElem_of_mem hb
  rw [count_draws hnodup hi, count_draws hnodup hj]
  have hceil : n ⌈/⌉ source.length ≤ n / source.length + 1 := by
    rw [ceilDiv_le_iff_le_mul (by omega)]
    exact (Nat.lt_mul_div_succ n (by omega)).le
  exact (h i hi).2.trans (hceil.trans (Nat.add_le_add_right (h j hj).1 1))

theorem Level.nodup (h : Level rule source.length n) (hnodup : source.Nodup) (hn : n ≤ source.length) :
    (draws source rule n).Nodup := by
  classical
  refine List.nodup_iff_count_le_one.mpr fun a => ?_
  by_cases ha : a ∈ draws source rule n
  · obtain ⟨i, hi, rfl⟩ := List.getElem_of_mem (mem_of_mem_draws ha)
    rw [count_draws hnodup hi]
    refine (h i hi).2.trans ?_
    rw [ceilDiv_le_iff_le_mul (by omega)]
    omega
  · rw [List.count_eq_zero_of_not_mem ha]
    exact Nat.zero_le 1

end Draws

section Rules

theorem le_mul_ceilDiv (hlength : 0 < length) (m : ℕ) : m ≤ length * (m ⌈/⌉ length) :=
  (ceilDiv_le_iff_le_mul hlength).mp le_rfl

theorem level_mod (length n : ℕ) : Level (· % length) length n := by
  intro j hj
  have hlength : 0 < length := by omega
  have hcount : Nat.count (· ≡ j [MOD length]) n = n / length + if j % length < n % length then 1 else 0 :=
    Nat.count_modEq_card n hlength j
  have hsame : Nat.count (fun i => i % length = j) n = Nat.count (· ≡ j [MOD length]) n := by
    unfold Nat.ModEq
    simp only [Nat.mod_eq_of_lt hj]
  show n / length ≤ Nat.count (fun i => i % length = j) n ∧ Nat.count (fun i => i % length = j) n ≤ n ⌈/⌉ length
  rw [hsame, hcount]
  refine ⟨Nat.le_add_right _ _, ?_⟩
  have hdiv := Nat.div_add_mod n length
  have hceil := le_mul_ceilDiv hlength n
  split
  · by_contra hlt
    have : length * (n ⌈/⌉ length) ≤ length * (n / length) := Nat.mul_le_mul_left _ (by omega)
    omega
  · exact floorDiv_le_ceilDiv (b := n) (a := length)

theorem count_between {lo hi : ℕ} (h : hi ≤ n) : Nat.count (fun i => lo ≤ i ∧ i < hi) n = hi - lo := by
  rw [Nat.count_eq_card_filter_range, ← Nat.card_Ico]
  congr 1
  ext i
  simp only [Finset.mem_filter, Finset.mem_range, Finset.mem_Ico]
  omega

/-- The draws at a position of an even spread lie between two shares of it, rounded up. -/
theorem even_eq_iff (hlength : 0 < length) (hn : 0 < n) {i j : ℕ} :
    i * length / n = j ↔ (j * n) ⌈/⌉ length ≤ i ∧ i < ((j + 1) * n) ⌈/⌉ length := by
  rw [ceilDiv_le_iff_le_mul hlength, ← not_le, ceilDiv_le_iff_le_mul hlength, not_le, Nat.mul_comm length i,
    ← Nat.le_div_iff_mul_le hn, ← Nat.div_lt_iff_lt_mul hn]
  omega

theorem level_even (length n : ℕ) : Level (fun i => i * length / n) length n := by
  intro j hj
  have hlength : 0 < length := by omega
  rcases Nat.eq_zero_or_pos n with rfl | hn
  · simp
  have hcount : Nat.count (fun i => i * length / n = j) n = ((j + 1) * n) ⌈/⌉ length - (j * n) ⌈/⌉ length := by
    simp only [even_eq_iff hlength hn]
    exact count_between ((ceilDiv_le_iff_le_mul hlength).mpr (Nat.mul_le_mul_right n (by omega)))
  show n / length ≤ Nat.count (fun i => i * length / n = j) n ∧ Nat.count (fun i => i * length / n = j) n ≤ n ⌈/⌉ length
  have hlow := le_mul_ceilDiv hlength (j * n)
  have hhigh := le_mul_ceilDiv hlength ((j + 1) * n)
  have hshare := le_mul_ceilDiv hlength n
  have hfloor : length * (n / length) ≤ n := Nat.mul_div_le n length
  rw [hcount]
  constructor
  · have hle : n / length ≤ ((j + 1) * n) ⌈/⌉ length := by
      refine Nat.le_of_mul_le_mul_left (hfloor.trans (le_trans ?_ hhigh)) hlength
      rw [Nat.succ_mul]
      omega
    have hlo : (j * n) ⌈/⌉ length ≤ ((j + 1) * n) ⌈/⌉ length - n / length := by
      rw [ceilDiv_le_iff_le_mul hlength, Nat.mul_sub]
      have hsucc : (j + 1) * n = j * n + n := Nat.succ_mul j n
      omega
    omega
  · rw [Nat.sub_le_iff_le_add, ceilDiv_le_iff_le_mul hlength, Nat.mul_add, Nat.succ_mul]
    omega

end Rules

end CestaPlan.Spreading
