import CestaPlan.Library.Numeric
import Mathlib.Tactic.LinearCombination

/-! The rounding of the decimal context keeps the order, and what it gives back it leaves alone. `quantize` rounds to a number of
    decimals and refuses what does not fit into the context. -/

namespace CestaPlan.Numeric

/-! ### To integers -/

theorem roundHalfEven_le (x : ℚ) : roundHalfEven x ≤ ⌊x⌋ + 1 := by
  unfold roundHalfEven
  split <;> omega

theorem floor_le_roundHalfEven (x : ℚ) : ⌊x⌋ ≤ roundHalfEven x := by
  unfold roundHalfEven
  split <;> omega

theorem roundHalfEven_mono {x y : ℚ} (h : x ≤ y) : roundHalfEven x ≤ roundHalfEven y := by
  rcases (Int.floor_le_floor h).lt_or_eq with hlt | heq
  · calc roundHalfEven x ≤ ⌊x⌋ + 1 := roundHalfEven_le x
      _ ≤ ⌊y⌋ := hlt
      _ ≤ roundHalfEven y := floor_le_roundHalfEven y
  · -- Where `y` is rounded down, so is `x`, which is no farther above the same integer.
    unfold roundHalfEven
    rw [heq]
    by_cases hy : y - ⌊y⌋ < 1 / 2 ∨ (y - ⌊y⌋ = 1 / 2 ∧ ⌊y⌋ % 2 = 0)
    · rw [if_pos hy, if_pos]
      rcases hy with hy | ⟨hy, heven⟩
      · exact .inl (by linarith)
      · rcases h.lt_or_eq with hlt | rfl
        · exact .inl (by linarith)
        · exact .inr ⟨hy, heven⟩
    · rw [if_neg hy]
      split <;> omega

theorem roundHalfEven_neg (x : ℚ) : roundHalfEven (-x) = -roundHalfEven x := by
  by_cases hint : x = ⌊x⌋
  · rw [hint, ← Int.cast_neg, roundHalfEven_intCast, roundHalfEven_intCast]
  · have hle := Int.floor_le x
    have hlt := Int.lt_floor_add_one x
    have hpos : (⌊x⌋ : ℚ) < x := lt_of_le_of_ne hle (Ne.symm hint)
    have hfloor : ⌊-x⌋ = -⌊x⌋ - 1 := by
      rw [Int.floor_eq_iff]
      push_cast
      constructor <;> linarith
    unfold roundHalfEven
    rw [hfloor]
    push_cast
    rcases lt_trichotomy (x - ⌊x⌋) (1 / 2) with h | h | h
    · rw [if_neg (by rintro (h' | ⟨h', -⟩) <;> linarith), if_pos (.inl h)]
      ring
    · rcases Int.emod_two_eq_zero_or_one ⌊x⌋ with heven | hodd
      · rw [if_neg (by rintro (h' | ⟨-, h'⟩) <;> [linarith; omega]), if_pos (.inr ⟨h, heven⟩)]
        ring
      · rw [if_pos (.inr ⟨by linarith, by omega⟩), if_neg (by rintro (h' | ⟨-, h'⟩) <;> [linarith; omega])]
        ring
    · rw [if_pos (.inl (by linarith)), if_neg (by rintro (h' | ⟨h', -⟩) <;> linarith)]
      ring

theorem roundHalfEven_sub_eq_iff {n : ℤ} {y : ℚ} (heven : n % 2 = 0) (hy : 0 ≤ y) : roundHalfEven (n - y) = n ↔ y ≤ 1 / 2 := by
  constructor
  · intro h
    have herr := abs_roundHalfEven_sub_le (n - y)
    rwa [h, sub_sub_cancel, abs_of_nonneg hy] at herr
  · intro h
    rcases hy.lt_or_eq with hy | rfl
    · have hfloor : ⌊(n : ℚ) - y⌋ = n - 1 := by
        rw [Int.floor_eq_iff]
        push_cast
        constructor <;> linarith
      unfold roundHalfEven
      rw [hfloor, if_neg]
      · omega
      · push_cast
        rintro (hlt | ⟨-, hodd⟩)
        · linarith
        · omega
    · rw [sub_zero, roundHalfEven_intCast]

/-! ### To the context -/

theorem lastDigit_neg (x : ℚ) : lastDigit (-x) = lastDigit x := by
  unfold lastDigit
  rw [abs_neg]

theorem roundContext_neg (x : ℚ) : roundContext (-x) = -roundContext x := by
  unfold roundContext
  rw [lastDigit_neg, neg_div, roundHalfEven_neg]
  split_ifs with h h' h'
  · exact neg_zero.symm
  · exact absurd (neg_eq_zero.mp h) h'
  · exact absurd (neg_eq_zero.mpr h') h
  · push_cast
    ring

theorem roundContext_zpow {n : ℤ} (hn : |n| < 10 ^ contextPrec) (k : ℤ) :
    roundContext ((n : ℚ) * 10 ^ k) = (n : ℚ) * 10 ^ k := by
  unfold roundContext
  split
  · next h => exact h.symm
  · next h =>
    have hpow : (0 : ℚ) < 10 ^ k := zpow_pos (by norm_num) _
    have hlast : lastDigit ((n : ℚ) * 10 ^ k) ≤ k := by
      have hlt : |(n : ℚ) * 10 ^ k| < ((10 : ℕ) : ℚ) ^ ((contextPrec : ℤ) + k) := by
        rw [abs_mul, abs_of_pos hpow, zpow_add₀ (by norm_num), zpow_natCast]
        push_cast
        exact mul_lt_mul_of_pos_right (by exact_mod_cast hn) hpow
      have := (Int.lt_zpow_iff_log_lt (by norm_num) (abs_pos.mpr h)).mp hlt
      unfold lastDigit contextPrec at *
      omega
    obtain ⟨m, hm⟩ := Int.le.dest hlast
    have hint : (n : ℚ) * 10 ^ k / 10 ^ lastDigit ((n : ℚ) * 10 ^ k) = ((n * 10 ^ m : ℤ) : ℚ) := by
      have hk : (10 : ℚ) ^ k = 10 ^ lastDigit ((n : ℚ) * 10 ^ k) * 10 ^ m := by
        rw [← zpow_natCast, ← zpow_add₀ (by norm_num), hm]
      rw [div_eq_iff (zpow_ne_zero _ (by norm_num))]
      push_cast
      linear_combination (n : ℚ) * hk
    rw [hint, roundHalfEven_intCast, ← hint, div_mul_cancel₀ _ (zpow_ne_zero _ (by norm_num))]

theorem roundContext_intCast {n : ℤ} (hn : |n| < 10 ^ contextPrec) : roundContext n = n := by
  have h := roundContext_zpow hn 0
  rwa [zpow_zero, mul_one] at h

theorem roundContext_pow (k : ℤ) : roundContext (10 ^ k) = 10 ^ k := by
  have h := roundContext_zpow (n := 1) (by norm_num [contextPrec]) k
  rwa [Int.cast_one, one_mul] at h

theorem roundContext_bounds {x : ℚ} (hx : 0 < x) :
    (10 : ℚ) ^ Int.log 10 x ≤ roundContext x ∧ roundContext x ≤ 10 ^ (Int.log 10 x + 1) := by
  have hpos : (0 : ℚ) < 10 ^ lastDigit x := zpow_pos (by norm_num) _
  have hlast : Int.log 10 x = lastDigit x + (contextPrec - 1 : ℕ) := by rw [lastDigit, abs_of_pos hx]; ring
  have hlo : (10 : ℚ) ^ Int.log 10 x ≤ x := by exact_mod_cast Int.zpow_log_le_self (b := 10) (by norm_num) hx
  have hhi : x < (10 : ℚ) ^ (Int.log 10 x + 1) := by exact_mod_cast Int.lt_zpow_succ_log_self (b := 10) (by norm_num) x
  unfold roundContext
  rw [if_neg hx.ne']
  constructor
  · have hscaled : ((10 ^ (contextPrec - 1) : ℤ) : ℚ) ≤ x / 10 ^ lastDigit x := by
      rw [le_div_iff₀ hpos]
      calc ((10 ^ (contextPrec - 1) : ℤ) : ℚ) * 10 ^ lastDigit x = 10 ^ Int.log 10 x := by
            rw [hlast, zpow_add₀ (by norm_num), zpow_natCast]
            push_cast
            ring
        _ ≤ x := hlo
    have hround := roundHalfEven_mono hscaled
    rw [roundHalfEven_intCast] at hround
    calc (10 : ℚ) ^ Int.log 10 x = ((10 ^ (contextPrec - 1) : ℤ) : ℚ) * 10 ^ lastDigit x := by
          rw [hlast, zpow_add₀ (by norm_num), zpow_natCast]
          push_cast
          ring
      _ ≤ _ := mul_le_mul_of_nonneg_right (by exact_mod_cast hround) hpos.le
  · have hscaled : x / 10 ^ lastDigit x ≤ ((10 ^ contextPrec : ℤ) : ℚ) := by
      rw [div_le_iff₀ hpos]
      calc x ≤ 10 ^ (Int.log 10 x + 1) := hhi.le
        _ = ((10 ^ contextPrec : ℤ) : ℚ) * 10 ^ lastDigit x := by
            rw [hlast, add_right_comm, add_assoc, zpow_add₀ (by norm_num)]
            push_cast
            rw [← zpow_natCast, mul_comm]
            norm_num [contextPrec]
    have hround := roundHalfEven_mono hscaled
    rw [roundHalfEven_intCast] at hround
    calc _ ≤ ((10 ^ contextPrec : ℤ) : ℚ) * 10 ^ lastDigit x := mul_le_mul_of_nonneg_right (by exact_mod_cast hround) hpos.le
      _ = 10 ^ (Int.log 10 x + 1) := by
          rw [hlast, add_right_comm, add_assoc, zpow_add₀ (by norm_num)]
          push_cast
          rw [← zpow_natCast, mul_comm]
          norm_num [contextPrec]

theorem roundContext_pos {x : ℚ} (hx : 0 < x) : 0 < roundContext x :=
  (zpow_pos (by norm_num) _).trans_le (roundContext_bounds hx).1

theorem roundContext_zero : roundContext 0 = 0 := if_pos rfl

theorem roundContext_nonneg {x : ℚ} (hx : 0 ≤ x) : 0 ≤ roundContext x := by
  rcases hx.lt_or_eq with hx | rfl
  · exact (roundContext_pos hx).le
  · rw [roundContext_zero]

theorem roundContext_mono_of_pos {x y : ℚ} (hx : 0 < x) (h : x ≤ y) : roundContext x ≤ roundContext y := by
  have hy := hx.trans_le h
  rcases (Int.log_mono_right hx h : Int.log 10 x ≤ Int.log 10 y).lt_or_eq with hlt | heq
  · calc roundContext x ≤ 10 ^ (Int.log 10 x + 1) := (roundContext_bounds hx).2
      _ ≤ 10 ^ Int.log 10 y := zpow_le_zpow_right₀ (by norm_num) hlt
      _ ≤ roundContext y := (roundContext_bounds hy).1
  · have hlast : lastDigit x = lastDigit y := by rw [lastDigit, lastDigit, abs_of_pos hx, abs_of_pos hy, heq]
    have hpos : (0 : ℚ) < 10 ^ lastDigit y := zpow_pos (by norm_num) _
    unfold roundContext
    rw [if_neg hx.ne', if_neg hy.ne', hlast]
    refine mul_le_mul_of_nonneg_right ?_ hpos.le
    exact_mod_cast roundHalfEven_mono (div_le_div_of_nonneg_right h hpos.le)

theorem roundContext_mono {x y : ℚ} (h : x ≤ y) : roundContext x ≤ roundContext y := by
  rcases lt_or_ge 0 x with hx | hx
  · exact roundContext_mono_of_pos hx h
  · rcases lt_or_ge y 0 with hy | hy
    · have hneg := roundContext_mono_of_pos (neg_pos.mpr hy) (neg_le_neg h)
      rw [roundContext_neg, roundContext_neg] at hneg
      exact neg_le_neg_iff.mp hneg
    · have hneg := roundContext_nonneg (neg_nonneg.mpr hx)
      rw [roundContext_neg] at hneg
      exact (neg_nonneg.mp hneg).trans (roundContext_nonneg hy)

@[simp] theorem roundContext_roundContext (x : ℚ) : roundContext (roundContext x) = roundContext x := by
  -- The digits that are kept are 28, or one and then zeros.
  have hdigits : ∀ n : ℤ, |n| ≤ 10 ^ contextPrec → ∀ k : ℤ, roundContext ((n : ℚ) * 10 ^ k) = n * 10 ^ k := by
    intro n hn k
    rcases hn.lt_or_eq with hn | hn
    · exact roundContext_zpow hn k
    · have hten : (10 : ℚ) ^ contextPrec * 10 ^ k = 10 ^ ((contextPrec : ℤ) + k) := by
        rw [zpow_add₀ (by norm_num), zpow_natCast]
      rcases (abs_eq (by positivity)).mp hn with rfl | rfl
      · push_cast
        rw [hten, roundContext_pow]
      · push_cast
        rw [neg_mul, roundContext_neg, hten, roundContext_pow]
  have hpos : ∀ y : ℚ, 0 < y → roundContext (roundContext y) = roundContext y := by
    intro y hy
    have hle := (roundContext_bounds hy).2
    have hlast : (0 : ℚ) < 10 ^ lastDigit y := zpow_pos (by norm_num) _
    have heq : roundContext y = (roundHalfEven (y / 10 ^ lastDigit y) : ℚ) * 10 ^ lastDigit y := if_neg hy.ne'
    rw [heq] at hle ⊢
    refine hdigits _ ?_ _
    have hbound : (roundHalfEven (y / 10 ^ lastDigit y) : ℚ) ≤ 10 ^ contextPrec := by
      refine le_of_mul_le_mul_right (hle.trans_eq ?_) hlast
      rw [show Int.log 10 y + 1 = (contextPrec : ℤ) + lastDigit y by
        rw [lastDigit, abs_of_pos hy]; norm_num [contextPrec]; ring, zpow_add₀ (by norm_num), zpow_natCast]
    have hnonneg : 0 ≤ roundHalfEven (y / 10 ^ lastDigit y) := by
      have := roundHalfEven_mono (show ((0 : ℤ) : ℚ) ≤ y / 10 ^ lastDigit y by push_cast; positivity)
      rwa [roundHalfEven_intCast] at this
    rw [abs_of_nonneg hnonneg]
    exact_mod_cast hbound
  rcases lt_trichotomy x 0 with hx | rfl | hx
  · have h := hpos (-x) (neg_pos.mpr hx)
    rw [roundContext_neg, roundContext_neg] at h
    exact neg_injective h
  · rw [roundContext_zero, roundContext_zero]
  · exact hpos x hx

theorem roundContext_of_log {x : ℚ} {k : ℤ} (hlo : (10 : ℚ) ^ k ≤ x) (hhi : x < 10 ^ (k + 1)) :
    roundContext x = roundHalfEven (x / 10 ^ (k - (contextPrec - 1 : ℕ))) * 10 ^ (k - (contextPrec - 1 : ℕ)) := by
  have hx : 0 < x := (zpow_pos (by norm_num) k).trans_le hlo
  have hlog : Int.log 10 x = k := by
    refine le_antisymm ?_ ?_
    · have := (Int.lt_zpow_iff_log_lt (b := 10) (by norm_num) hx (x := k + 1)).mp (by exact_mod_cast hhi)
      omega
    · exact (Int.zpow_le_iff_le_log (b := 10) (by norm_num) hx).mp (by exact_mod_cast hlo)
  unfold roundContext
  rw [if_neg hx.ne', lastDigit, abs_of_pos hx, hlog]

theorem abs_roundContext_sub_le_of_log {x : ℚ} {k : ℤ} (hlo : (10 : ℚ) ^ k ≤ x) (hhi : x < 10 ^ (k + 1)) :
    |roundContext x - x| ≤ 10 ^ (k - (contextPrec - 1 : ℕ)) / 2 := by
  rw [roundContext_of_log hlo hhi]
  set ulp : ℚ := 10 ^ (k - (contextPrec - 1 : ℕ)) with hulp
  have hpos : 0 < ulp := zpow_pos (by norm_num) _
  calc |(roundHalfEven (x / ulp) : ℚ) * ulp - x| = |(roundHalfEven (x / ulp) : ℚ) - x / ulp| * ulp := by
        rw [← abs_of_pos hpos, ← abs_mul, abs_of_pos hpos, sub_mul, div_mul_cancel₀ _ hpos.ne']
    _ ≤ 1 / 2 * ulp := mul_le_mul_of_nonneg_right (abs_roundHalfEven_sub_le _) hpos.le
    _ = ulp / 2 := by ring

/-- Half a unit of the last digit below 1. -/
def halfUnit : ℚ := 5 / 10 ^ 29

theorem roundContext_one_sub_eq_one_iff {q : ℚ} (hq : 0 ≤ q) (hq1 : q ≤ 1) : roundContext (1 - q) = 1 ↔ q ≤ halfUnit := by
  rcases hq.lt_or_eq with hq | rfl
  · by_cases htenth : q ≤ 9 / 10
    · have hlo : (10 : ℚ) ^ (-1 : ℤ) ≤ 1 - q := by norm_num; linarith
      have hhi : 1 - q < (10 : ℚ) ^ (-1 + 1 : ℤ) := by norm_num; exact hq
      rw [roundContext_of_log hlo hhi]
      have hscale : (1 - q) / 10 ^ ((-1 : ℤ) - (contextPrec - 1 : ℕ)) = ((10 ^ 28 : ℤ) : ℚ) - q * 10 ^ 28 := by
        norm_num [contextPrec]
        ring
      have hunit : (10 : ℚ) ^ ((-1 : ℤ) - (contextPrec - 1 : ℕ)) = 1 / 10 ^ 28 := by norm_num [contextPrec]
      rw [hscale, hunit, mul_one_div, div_eq_one_iff_eq (by norm_num)]
      calc _ ↔ roundHalfEven (((10 ^ 28 : ℤ) : ℚ) - q * 10 ^ 28) = 10 ^ 28 := by norm_cast
        _ ↔ q * 10 ^ 28 ≤ 1 / 2 := roundHalfEven_sub_eq_iff (by norm_num) (by positivity)
        _ ↔ q ≤ halfUnit := by
          unfold halfUnit
          constructor <;> intro h <;> linarith
    · refine iff_of_false (fun h => ?_) (fun h => htenth (h.trans (by norm_num [halfUnit])))
      have hle : roundContext (1 - q) ≤ roundContext ((1 : ℤ) / 10 ^ 1) := roundContext_mono (by push_cast; linarith)
      rw [roundContext_of_int (by norm_num [contextPrec]), h] at hle
      norm_num at hle
  · rw [sub_zero]
    exact iff_of_true (roundContext_intCast (n := 1) (by norm_num [contextPrec])) (by norm_num [halfUnit])

theorem roundContext_le_of_lt_one {x : ℚ} (h : roundContext x < 1) : roundContext x ≤ 1 - 1 / 10 ^ contextPrec := by
  rcases lt_or_ge x (1 / 10) with hx | hx
  · calc roundContext x ≤ roundContext ((1 : ℤ) / 10 ^ 1) := roundContext_mono (by push_cast; linarith)
      _ = (1 : ℤ) / 10 ^ 1 := roundContext_of_int (by norm_num [contextPrec])
      _ ≤ 1 - 1 / 10 ^ contextPrec := by norm_num [contextPrec]
  · have hx1 : x < 1 := by
      refine lt_of_not_ge fun hge => not_le.mpr h ?_
      calc (1 : ℚ) = roundContext (1 : ℤ) := (roundContext_intCast (by norm_num [contextPrec])).symm
        _ ≤ roundContext x := roundContext_mono (by rwa [Int.cast_one])
    have hunit : (10 : ℚ) ^ ((-1 : ℤ) - (contextPrec - 1 : ℕ)) = 1 / 10 ^ contextPrec := by norm_num [contextPrec]
    have heq := @roundContext_of_log x (-1) (by norm_num; linarith) (by norm_num; exact hx1)
    rw [hunit, mul_one_div] at heq
    rw [heq, div_lt_one (by positivity)] at h
    have hlast : roundHalfEven (x / (1 / 10 ^ contextPrec)) ≤ 10 ^ contextPrec - 1 := Int.le_sub_one_of_lt (by exact_mod_cast h)
    have hlast : (roundHalfEven (x / (1 / 10 ^ contextPrec)) : ℚ) ≤ 10 ^ contextPrec - 1 := by exact_mod_cast hlast
    rw [heq, div_le_iff₀ (by positivity), sub_mul, one_mul, one_div_mul_cancel (by positivity)]
    exact hlast

/-! ### Quantization -/

/-- `x.quantize(..)` to some decimals, which raises where the digits do not fit. -/
def quantize (scale : ℕ) (x : ℚ) : Option ℚ :=
  let n := roundHalfEven (x * 10 ^ scale)
  if |n| < 10 ^ contextPrec then some (n / 10 ^ scale) else none

variable {scale : ℕ} {x y a b : ℚ}

theorem quantize_eq_some_iff : quantize scale x = some a ↔
    |roundHalfEven (x * 10 ^ scale)| < 10 ^ contextPrec ∧ a = roundHalfEven (x * 10 ^ scale) / 10 ^ scale := by
  unfold quantize
  dsimp only
  split <;> simp_all [eq_comm]

theorem quantize_le (h : x ≤ y) (hx : quantize scale x = some a) (hy : quantize scale y = some b) : a ≤ b := by
  obtain ⟨-, rfl⟩ := quantize_eq_some_iff.mp hx
  obtain ⟨-, rfl⟩ := quantize_eq_some_iff.mp hy
  have hround := roundHalfEven_mono (mul_le_mul_of_nonneg_right h (show (0 : ℚ) ≤ 10 ^ scale by positivity))
  exact div_le_div_of_nonneg_right (by exact_mod_cast hround) (by positivity)

theorem quantize_nonneg (h : 0 ≤ x) (hx : quantize scale x = some a) : 0 ≤ a := by
  have hzero : quantize scale 0 = some 0 := by
    refine quantize_eq_some_iff.mpr ?_
    rw [zero_mul, show (0 : ℚ) = ((0 : ℤ) : ℚ) from rfl, roundHalfEven_intCast]
    simp [contextPrec]
  exact quantize_le h hzero hx

theorem quantize_of_int {n : ℤ} (h : quantize scale (n / 10 ^ scale) = some a) : a = n / 10 ^ scale ∧ |n| < 10 ^ contextPrec := by
  obtain ⟨hfits, rfl⟩ := quantize_eq_some_iff.mp h
  have hn : (n : ℚ) / 10 ^ scale * 10 ^ scale = n := div_mul_cancel₀ _ (by positivity)
  rw [hn, roundHalfEven_intCast] at hfits ⊢
  exact ⟨rfl, hfits⟩

/-! ### Sums of stored amounts -/

/-- `x + y` in the context. -/
def addContext (x y : ℚ) : ℚ := roundContext (x + y)

theorem foldl_addContext {xs : List ℤ} {n : ℤ} (h : ∀ k, |n + (xs.take k).sum| < 10 ^ contextPrec) :
    (xs.map fun x : ℤ => (x : ℚ) / 10 ^ scale).foldl addContext (n / 10 ^ scale) = ((n + xs.sum : ℤ) : ℚ) / 10 ^ scale := by
  induction xs generalizing n with
  | nil => rw [List.sum_nil, add_zero, List.map_nil, List.foldl_nil]
  | cons x xs ih =>
    have hfirst : |n + x| < 10 ^ contextPrec := by simpa using h 1
    have hstep : addContext ((n : ℚ) / 10 ^ scale) (x / 10 ^ scale) = ((n + x : ℤ) : ℚ) / 10 ^ scale := by
      unfold addContext
      rw [← add_div, ← Int.cast_add, roundContext_of_int hfirst]
    rw [List.map_cons, List.foldl_cons, hstep, List.sum_cons, ← add_assoc]
    refine ih fun k => ?_
    have := h (k + 1)
    rwa [List.take_succ_cons, List.sum_cons, ← add_assoc] at this

/-- The first amount with so many decimals that the context does not hold exactly. -/
def contextLimit (scale : ℕ) : ℚ := 10 ^ ((contextPrec : ℤ) - scale)

theorem roundContext_limit (scale : ℕ) : roundContext (contextLimit scale) = contextLimit scale := roundContext_pow _

theorem contextLimit_mul (scale : ℕ) : contextLimit scale * 10 ^ scale = ((10 ^ contextPrec : ℤ) : ℚ) := by
  unfold contextLimit
  rw [zpow_sub₀ (by norm_num), zpow_natCast, zpow_natCast, div_mul_cancel₀ _ (by positivity)]
  push_cast
  ring

theorem lt_contextLimit_iff {n : ℤ} : (n : ℚ) / 10 ^ scale < contextLimit scale ↔ n < 10 ^ contextPrec := by
  rw [div_lt_iff₀ (by positivity), contextLimit_mul]
  exact Int.cast_lt

theorem lt_contextLimit_of_quantize (h : quantize scale x = some a) : x < contextLimit scale := by
  refine lt_of_not_ge fun hlimit => ?_
  obtain ⟨hdigits, -⟩ := quantize_eq_some_iff.mp h
  have hround := roundHalfEven_mono (mul_le_mul_of_nonneg_right hlimit (show (0 : ℚ) ≤ 10 ^ scale by positivity))
  rw [contextLimit_mul, roundHalfEven_intCast] at hround
  exact absurd (hround.trans (le_abs_self _)) (not_le.mpr hdigits)

theorem quantize_sub_of_int {m n : ℤ} (hnm : n ≤ m) (h : quantize scale (roundContext (m / 10 ^ scale - n / 10 ^ scale)) = some a) :
    a = ((m - n : ℤ) : ℚ) / 10 ^ scale := by
  have hdiff : (m : ℚ) / 10 ^ scale - n / 10 ^ scale = ((m - n : ℤ) : ℚ) / 10 ^ scale := by
    push_cast
    ring
  rw [hdiff] at h
  by_cases hfit : |m - n| < 10 ^ contextPrec
  · rw [roundContext_of_int hfit] at h
    exact (quantize_of_int h).1
  · have hlimit : contextLimit scale ≤ roundContext (((m - n : ℤ) : ℚ) / 10 ^ scale) := by
      rw [← roundContext_limit]
      refine roundContext_mono (le_of_not_gt fun hlt => hfit ?_)
      rw [abs_of_nonneg (sub_nonneg.mpr hnm)]
      exact lt_contextLimit_iff.mp hlt
    exact absurd hlimit (not_le.mpr (lt_contextLimit_of_quantize h))

theorem contextLimit_le_foldl {xs : List ℤ} (hpos : ∀ x ∈ xs, 0 ≤ x) {q : ℚ} (hq : contextLimit scale ≤ q) :
    contextLimit scale ≤ (xs.map fun x : ℤ => (x : ℚ) / 10 ^ scale).foldl addContext q := by
  induction xs generalizing q with
  | nil => exact hq
  | cons x xs ih =>
    obtain ⟨hx, hxs⟩ := List.forall_mem_cons.mp hpos
    refine ih hxs ?_
    have hnonneg : (0 : ℚ) ≤ (x : ℚ) / 10 ^ scale := by positivity
    calc contextLimit scale = roundContext (contextLimit scale) := (roundContext_limit scale).symm
      _ ≤ addContext q (x / 10 ^ scale) := roundContext_mono (by linarith)

/-- Where a sum of amounts that are not negative can be quantized, every partial sum fits into the context. -/
theorem sum_lt_of_quantize {xs : List ℤ} (hpos : ∀ x ∈ xs, 0 ≤ x) {n : ℤ} (hn : n < 10 ^ contextPrec)
    (hn' : 0 ≤ n)
    (h : quantize scale ((xs.map fun x : ℤ => (x : ℚ) / 10 ^ scale).foldl addContext (n / 10 ^ scale)) = some a) :
    n + xs.sum < 10 ^ contextPrec := by
  induction xs generalizing n with
  | nil => rwa [List.sum_nil, add_zero]
  | cons x xs ih =>
    obtain ⟨hx, hxs⟩ := List.forall_mem_cons.mp hpos
    rw [List.map_cons, List.foldl_cons] at h
    rw [List.sum_cons, ← add_assoc]
    by_cases hfits : n + x < 10 ^ contextPrec
    · have hstep : addContext ((n : ℚ) / 10 ^ scale) (x / 10 ^ scale) = ((n + x : ℤ) : ℚ) / 10 ^ scale := by
        unfold addContext
        rw [← add_div, ← Int.cast_add, roundContext_of_int (by rwa [abs_of_nonneg (add_nonneg hn' hx)])]
      rw [hstep] at h
      exact ih hxs hfits (add_nonneg hn' hx) h
    · have hstep : contextLimit scale ≤ addContext ((n : ℚ) / 10 ^ scale) (x / 10 ^ scale) := by
        unfold addContext
        rw [← add_div, ← Int.cast_add, ← roundContext_limit]
        exact roundContext_mono (le_of_not_gt fun hlt => hfits (lt_contextLimit_iff.mp hlt))
      exact absurd (contextLimit_le_foldl hxs hstep) (not_le.mpr (lt_contextLimit_of_quantize h))

end CestaPlan.Numeric
