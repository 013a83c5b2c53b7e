import Mathlib.Data.Rat.Floor
import Mathlib.Data.Int.Log
import Mathlib.Tactic.Linarith
import Mathlib.Tactic.FieldSimp
import Mathlib.Tactic.Positivity

/-! Decimal arithmetic over the rationals: a column keeps a fixed number of decimals and rounds halves
    away from zero; the decimal context keeps 28 significant digits and rounds halves to even. -/

namespace CestaPlan.Numeric

/-- `x` as a column with `scale` decimals keeps it. -/
def roundScale (scale : Nat) (x : ℚ) : ℚ :=
  if 0 ≤ x then (⌊x * 10 ^ scale + 1 / 2⌋ : ℚ) / 10 ^ scale
  else -((⌊-x * 10 ^ scale + 1 / 2⌋ : ℚ) / 10 ^ scale)

variable {scale : Nat}

theorem floor_half (n : ℤ) : ⌊(n : ℚ) / 10 ^ scale * 10 ^ scale + 1 / 2⌋ = n := by
  have h : (n : ℚ) / 10 ^ scale * 10 ^ scale = n := div_mul_cancel₀ _ (by positivity)
  rw [h, Int.floor_eq_iff]
  constructor <;> linarith

theorem roundScale_of_int (n : ℤ) : roundScale scale ((n : ℚ) / 10 ^ scale) = (n : ℚ) / 10 ^ scale := by
  unfold roundScale
  split
  · rw [floor_half]
  · have h : -((n : ℚ) / 10 ^ scale) * 10 ^ scale + 1 / 2 = ((-n : ℤ) : ℚ) / 10 ^ scale * 10 ^ scale + 1 / 2 := by
      push_cast
      ring
    rw [h, floor_half]
    push_cast
    ring

theorem roundScale_eq_int (scale : ℕ) (x : ℚ) : ∃ n : ℤ, roundScale scale x = (n : ℚ) / 10 ^ scale := by
  unfold roundScale
  split
  · exact ⟨_, rfl⟩
  · exact ⟨-⌊-x * 10 ^ scale + 1 / 2⌋, by push_cast; ring⟩

@[simp] theorem roundScale_roundScale (x : ℚ) : roundScale scale (roundScale scale x) = roundScale scale x := by
  obtain ⟨n, hn⟩ := roundScale_eq_int scale x
  rw [hn, roundScale_of_int]

theorem roundScale_eq_of_abs_sub_lt {x : ℚ} {n : ℤ} (h : |x - n / 10 ^ scale| < 1 / 2 / 10 ^ scale) :
    roundScale scale x = n / 10 ^ scale := by
  have hpos : (0 : ℚ) < 10 ^ scale := by positivity
  have hn : (n : ℚ) / 10 ^ scale * 10 ^ scale = n := div_mul_cancel₀ _ hpos.ne'
  obtain ⟨hlo, hhi⟩ := abs_lt.mp h
  have hlo' : -(1 / 2) < x * 10 ^ scale - n := by
    calc -(1 / 2 : ℚ) = -(1 / 2 / 10 ^ scale) * 10 ^ scale := by field_simp
      _ < (x - n / 10 ^ scale) * 10 ^ scale := mul_lt_mul_of_pos_right hlo hpos
      _ = x * 10 ^ scale - n := by rw [sub_mul, hn]
  have hhi' : x * 10 ^ scale - n < 1 / 2 := by
    calc x * 10 ^ scale - n = (x - n / 10 ^ scale) * 10 ^ scale := by rw [sub_mul, hn]
      _ < 1 / 2 / 10 ^ scale * 10 ^ scale := mul_lt_mul_of_pos_right hhi hpos
      _ = 1 / 2 := by field_simp
  unfold roundScale
  split
  · have hfloor : ⌊x * 10 ^ scale + 1 / 2⌋ = n := Int.floor_eq_iff.mpr ⟨by linarith, by linarith⟩
    rw [hfloor]
  · have hfloor : ⌊-x * 10 ^ scale + 1 / 2⌋ = -n :=
      Int.floor_eq_iff.mpr ⟨by push_cast; linarith, by push_cast; linarith⟩
    rw [hfloor]
    push_cast
    ring

theorem abs_roundScale_sub_le (scale : ℕ) (x : ℚ) : |roundScale scale x - x| ≤ 1 / 2 / 10 ^ scale := by
  have hpos : (0 : ℚ) < 10 ^ scale := by positivity
  -- The floor of a value and a half is at most a half away from the value.
  have hnear (y : ℚ) : |(⌊y * 10 ^ scale + 1 / 2⌋ : ℚ) / 10 ^ scale - y| ≤ 1 / 2 / 10 ^ scale := by
    have hle := Int.floor_le (y * 10 ^ scale + 1 / 2)
    have hlt := Int.lt_floor_add_one (y * 10 ^ scale + 1 / 2)
    have hy : (⌊y * 10 ^ scale + 1 / 2⌋ : ℚ) / 10 ^ scale - y = (⌊y * 10 ^ scale + 1 / 2⌋ - y * 10 ^ scale) / 10 ^ scale := by
      rw [sub_div, mul_div_cancel_right₀ _ hpos.ne']
    rw [hy, abs_div, abs_of_pos hpos]
    refine div_le_div_of_nonneg_right ?_ hpos.le
    rw [abs_le]
    constructor <;> linarith
  unfold roundScale
  split
  · exact hnear x
  · rw [show -((⌊-x * 10 ^ scale + 1 / 2⌋ : ℚ) / 10 ^ scale) - x =
      -((⌊-x * 10 ^ scale + 1 / 2⌋ : ℚ) / 10 ^ scale - -x) by ring, abs_neg]
    exact hnear (-x)

/-- What is at most half a unit above a value with `scale` decimals is not stored above it. -/
theorem roundScale_le_of_lt {x : ℚ} {n : ℤ} (h : x < n / 10 ^ scale + 1 / 2 / 10 ^ scale) :
    roundScale scale x ≤ n / 10 ^ scale := by
  have hpos : (0 : ℚ) < 10 ^ scale := by positivity
  obtain ⟨k, hk⟩ := roundScale_eq_int scale x
  have hnear := (abs_le.mp (abs_roundScale_sub_le scale x)).2
  rw [hk] at hnear ⊢
  have hlt : (k : ℚ) / 10 ^ scale < (n + 1) / 10 ^ scale := by
    calc (k : ℚ) / 10 ^ scale ≤ x + 1 / 2 / 10 ^ scale := by linarith
      _ < n / 10 ^ scale + 1 / 2 / 10 ^ scale + 1 / 2 / 10 ^ scale := by linarith
      _ = (n + 1) / 10 ^ scale := by ring
  have hint : k < n + 1 := by exact_mod_cast (div_lt_div_iff_of_pos_right hpos).mp hlt
  exact div_le_div_of_nonneg_right (by exact_mod_cast Int.lt_add_one_iff.mp hint) hpos.le

/-! ### The decimal context -/

/-- The nearest integer, the even one when two are nearest. -/
def roundHalfEven (x : ℚ) : ℤ :=
  if x - ⌊x⌋ < 1 / 2 ∨ (x - ⌊x⌋ = 1 / 2 ∧ ⌊x⌋ % 2 = 0) then ⌊x⌋ else ⌊x⌋ + 1

theorem roundHalfEven_intCast (n : ℤ) : roundHalfEven n = n := by
  simp [roundHalfEven]

theorem abs_roundHalfEven_sub_le (x : ℚ) : |(roundHalfEven x : ℚ) - x| ≤ 1 / 2 := by
  have h₀ := Int.floor_le x
  have h₁ := Int.lt_floor_add_one x
  unfold roundHalfEven
  split
  · next h =>
    have : x - ⌊x⌋ ≤ 1 / 2 := by
      rcases h with h | ⟨h, -⟩
      · exact le_of_lt h
      · exact le_of_eq h
    rw [abs_le]
    constructor <;> linarith
  · next h =>
    have : 1 / 2 ≤ x - ⌊x⌋ := by
      by_contra hc
      exact h (Or.inl (lt_of_not_ge hc))
    push_cast
    rw [abs_le]
    constructor <;> linarith

def contextPrec : Nat := 28

/-- The exponent of the last digit of `x` that the context keeps. -/
def lastDigit (x : ℚ) : ℤ := Int.log 10 |x| - (contextPrec - 1 : ℕ)

/-- `x` with the digits that the context keeps. -/
def roundContext (x : ℚ) : ℚ := if x = 0 then 0 else roundHalfEven (x / 10 ^ lastDigit x) * 10 ^ lastDigit x

theorem roundContext_of_int {n : ℤ} (hn : |n| < 10 ^ contextPrec) :
    roundContext ((n : ℚ) / 10 ^ scale) = (n : ℚ) / 10 ^ scale := by
  unfold roundContext
  split
  · next h => exact h.symm
  · next h =>
    have hlast : lastDigit ((n : ℚ) / 10 ^ scale) ≤ -scale := by
      have hlt : |(n : ℚ) / 10 ^ scale| < ((10 : ℕ) : ℚ) ^ ((contextPrec : ℤ) - scale) := by
        rw [abs_div, abs_of_pos (show (0 : ℚ) < 10 ^ scale by positivity), zpow_sub₀ (by norm_num), zpow_natCast,
          zpow_natCast]
        push_cast
        gcongr
        exact_mod_cast hn
      have := (Int.lt_zpow_iff_log_lt (by norm_num) (abs_pos.mpr h)).mp hlt
      unfold lastDigit contextPrec at *
      omega
    obtain ⟨k, hk⟩ := Int.le.dest hlast
    have hint : (n : ℚ) / 10 ^ scale / 10 ^ lastDigit ((n : ℚ) / 10 ^ scale) = ((n * 10 ^ k : ℤ) : ℚ) := by
      have hlast' : lastDigit ((n : ℚ) / 10 ^ scale) = -((scale + k : ℕ) : ℤ) := by push_cast; omega
      rw [hlast', zpow_neg, zpow_natCast, pow_add]
      push_cast
      field_simp
    rw [hint, roundHalfEven_intCast, ← hint, div_mul_cancel₀ _ (zpow_ne_zero _ (by norm_num))]

theorem abs_roundContext_sub_le (x : ℚ) : |roundContext x - x| ≤ |x| / 10 ^ (contextPrec - 1) := by
  unfold roundContext
  split
  · next h => simp [h]
  · next h =>
    have hpos : (0 : ℚ) < 10 ^ lastDigit x := zpow_pos (by norm_num) _
    have hx : x = x / 10 ^ lastDigit x * 10 ^ lastDigit x := (div_mul_cancel₀ _ hpos.ne').symm
    have hlog : (10 : ℚ) ^ lastDigit x ≤ |x| / 10 ^ (contextPrec - 1) := by
      have := Int.zpow_log_le_self (b := 10) (by norm_num) (abs_pos.mpr h)
      rw [lastDigit, zpow_sub₀ (by norm_num), zpow_natCast]
      exact div_le_div_of_nonneg_right (by exact_mod_cast this) (by positivity)
    calc |roundHalfEven (x / 10 ^ lastDigit x) * 10 ^ lastDigit x - x|
        = |roundHalfEven (x / 10 ^ lastDigit x) - x / 10 ^ lastDigit x| * 10 ^ lastDigit x := by
          rw [← abs_of_pos hpos, ← abs_mul, abs_of_pos hpos, sub_mul, ← hx]
      _ ≤ 1 / 2 * 10 ^ lastDigit x := by gcongr; exact abs_roundHalfEven_sub_le _
      _ ≤ |x| / 10 ^ (contextPrec - 1) := by linarith

theorem roundScale_eq_of_roundContext {x : ℚ} {n : ℤ} (hx : roundContext x = n / 10 ^ scale)
    (hn : 4 * |n| < 10 ^ (contextPrec - 1)) : roundScale scale x = n / 10 ^ scale := by
  have herr := abs_roundContext_sub_le x
  rw [hx] at herr
  have hscale : (0 : ℚ) < 10 ^ scale := by positivity
  -- The context error is small beside `x`, so `x` is at most twice what the context shows.
  have htwice : |x| ≤ 2 * |(n : ℚ) / 10 ^ scale| := by
    have hsmall : |x| / 10 ^ (contextPrec - 1) ≤ |x| / 2 :=
      div_le_div_of_nonneg_left (abs_nonneg x) (by norm_num) (by norm_num [contextPrec])
    have := abs_sub_abs_le_abs_sub x ((n : ℚ) / 10 ^ scale)
    rw [abs_sub_comm] at this
    linarith
  refine roundScale_eq_of_abs_sub_lt ?_
  rw [abs_sub_comm]
  have hn' : 4 * |(n : ℚ)| < 10 ^ (contextPrec - 1) := by exact_mod_cast hn
  calc |(n : ℚ) / 10 ^ scale - x| ≤ 2 * |(n : ℚ) / 10 ^ scale| / 10 ^ (contextPrec - 1) :=
        herr.trans (div_le_div_of_nonneg_right htwice (by positivity))
    _ = 4 * |(n : ℚ)| / 10 ^ (contextPrec - 1) * (1 / 2 / 10 ^ scale) := by
        rw [abs_div, abs_of_pos hscale]
        ring
    _ < 1 * (1 / 2 / 10 ^ scale) := by
        refine mul_lt_mul_of_pos_right ?_ (by positivity)
        rwa [div_lt_one (by positivity)]
    _ = 1 / 2 / 10 ^ scale := one_mul _

theorem roundScale_mono {x y : ℚ} (h : x ≤ y) : roundScale scale x ≤ roundScale scale y := by
  have hpos : (0 : ℚ) < 10 ^ scale := by positivity
  have hfloor {a b : ℚ} (hab : a ≤ b) : (⌊a * 10 ^ scale + 1 / 2⌋ : ℚ) / 10 ^ scale ≤ (⌊b * 10 ^ scale + 1 / 2⌋ : ℚ) / 10 ^ scale := by
    have hscaled : a * 10 ^ scale + 1 / 2 ≤ b * 10 ^ scale + 1 / 2 := by gcongr
    exact div_le_div_of_nonneg_right (by exact_mod_cast Int.floor_le_floor hscaled) hpos.le
  have hnonneg {a : ℚ} (ha : 0 ≤ a) : 0 ≤ (⌊a * 10 ^ scale + 1 / 2⌋ : ℚ) / 10 ^ scale := by
    have hfloor : 0 ≤ ⌊a * 10 ^ scale + 1 / 2⌋ := Int.floor_nonneg.mpr (by positivity)
    exact div_nonneg (by exact_mod_cast hfloor) hpos.le
  unfold roundScale
  split
  · next hx => rw [if_pos (hx.trans h)]; exact hfloor h
  · next hx =>
    split
    · next hy => exact (neg_nonpos.mpr (hnonneg (by linarith))).trans (hnonneg hy)
    · exact neg_le_neg (hfloor (neg_le_neg h))

theorem roundScale_zero : roundScale scale 0 = 0 := by
  have h := @roundScale_of_int scale 0
  rwa [Int.cast_zero, zero_div] at h

/-! ### Stored values in the context -/

theorem exists_digits {x : ℚ} (h : |roundScale scale x| < 10 ^ 8) :
    ∃ n : ℤ, roundScale scale x = n / 10 ^ scale ∧ |n| < 10 ^ (8 + scale) := by
  obtain ⟨n, hn⟩ := roundScale_eq_int scale x
  refine ⟨n, hn, ?_⟩
  rw [hn, abs_div, abs_of_pos (show (0 : ℚ) < 10 ^ scale by positivity), div_lt_iff₀ (by positivity), ← pow_add] at h
  exact_mod_cast h

theorem roundContext_roundScale {x : ℚ} (hs : scale ≤ 6) (h : |roundScale scale x| < 10 ^ 8) :
    roundContext (roundScale scale x) = roundScale scale x := by
  obtain ⟨n, hn, hlt⟩ := exists_digits h
  rw [hn]
  exact roundContext_of_int (hlt.trans_le (pow_le_pow_right₀ (by norm_num) (by unfold contextPrec; omega)))

theorem roundScale_of_roundContext {x y : ℚ} (hs : scale ≤ 6) (h : |roundScale scale x| < 10 ^ 8)
    (hy : roundContext y = roundScale scale x) : roundScale scale y = roundScale scale x := by
  obtain ⟨n, hn, hlt⟩ := exists_digits h
  rw [hn] at hy ⊢
  refine roundScale_eq_of_roundContext hy (lt_trans (mul_lt_mul_of_pos_left hlt (by norm_num)) ?_)
  calc (4 : ℤ) * 10 ^ (8 + scale) ≤ 4 * 10 ^ 14 :=
        mul_le_mul_of_nonneg_left (pow_le_pow_right₀ (by norm_num) (by omega)) (by norm_num)
    _ < 10 ^ (contextPrec - 1) := by norm_num [contextPrec]

end CestaPlan.Numeric
