import CestaPlan.Ingestion.Normalization
import CestaPlan.Library.DecimalContext
import CestaPlan.Library.DecimalText

/-! The arithmetic of decimals in the default context, with what it raises. Zeros are taken without their sign. -/

namespace CestaPlan.Ingestion
open Numeric DecimalText

/-- What the context traps. -/
inductive Signal where
  | invalidOperation | divisionByZero | overflow
deriving DecidableEq

/-- The least positive value that is too large for the context. -/
def tooLarge : ℚ := 10 ^ 1000000

/-- Below this the digits get fewer, down to the last one of the context. -/
def leastNormal : ℚ := 10 ^ (-999999 : ℤ)

def leastUnit : ℚ := 10 ^ (-1000026 : ℤ)

/-- A value as the context keeps it, where it is not too large. -/
def rounded (x : ℚ) : ℚ := if |x| < leastNormal then roundHalfEven (x / leastUnit) * leastUnit else roundContext x

def InRange (x : ℚ) : Prop := |rounded x| < tooLarge

instance (x : ℚ) : Decidable (InRange x) := inferInstanceAs (Decidable (_ < _))

def inContext (x : ℚ) : Except Signal Decimal := if InRange x then .ok (.finite (rounded x)) else .error .overflow

namespace Decimal

/-- The result of an operation on a NaN. -/
def nanOf (x y : Decimal) : Except Signal Decimal :=
  if x = .nan true ∨ y = .nan true then .error .invalidOperation else .ok (.nan false)

def mul : Decimal → Decimal → Except Signal Decimal
  | .finite x, .finite y => inContext (x * y)
  | .finite x, .infinity n => if x = 0 then .error .invalidOperation else .ok (.infinity (n ^^ decide (x < 0)))
  | .infinity n, .finite x => if x = 0 then .error .invalidOperation else .ok (.infinity (n ^^ decide (x < 0)))
  | .infinity n, .infinity m => .ok (.infinity (n ^^ m))
  | x, y => nanOf x y

def div : Decimal → Decimal → Except Signal Decimal
  | .finite x, .finite y =>
    if y = 0 then .error (if x = 0 then .invalidOperation else .divisionByZero) else inContext (x / y)
  | .finite _, .infinity _ => .ok (.finite 0)
  | .infinity n, .finite y => .ok (.infinity (n ^^ decide (y < 0)))
  | .infinity _, .infinity _ => .error .invalidOperation
  | x, y => nanOf x y

def sub : Decimal → Decimal → Except Signal Decimal
  | .finite x, .finite y => inContext (x - y)
  | .finite _, .infinity n => .ok (.infinity !n)
  | .infinity n, .finite _ => .ok (.infinity n)
  | .infinity n, .infinity m => if n = m then .error .invalidOperation else .ok (.infinity n)
  | x, y => nanOf x y

/-- `abs` of a result of the context. -/
def abs : Decimal → Decimal
  | .finite x => .finite |x|
  | .infinity _ => .infinity false
  | x => x

/-- `x < y` -/
def lt : Decimal → Decimal → Except Signal Bool
  | .finite x, .finite y => .ok (x < y)
  | .finite _, .infinity n => .ok !n
  | .infinity n, .finite _ => .ok n
  | .infinity n, .infinity m => .ok (n && !m)
  | _, _ => .error .invalidOperation

/-- `x <= y` -/
def le : Decimal → Decimal → Except Signal Bool
  | .finite x, .finite y => .ok (x ≤ y)
  | .finite _, .infinity n => .ok !n
  | .infinity n, .finite _ => .ok n
  | .infinity n, .infinity m => .ok (n || !m)
  | _, _ => .error .invalidOperation

/-- The value of a decimal. -/
def ofNumeral : Numeral → Decimal
  | .finite negative coefficient exponent => .finite (rational negative coefficient exponent)
  | .infinity negative => .infinity negative
  | .nan _ signaling _ => .nan signaling

/-- It is no number. -/
def isNan : Decimal → Bool
  | .nan _ => true
  | _ => false

end Decimal

/-! ### Finite decimals -/

section Finite
variable {x y : ℚ}

theorem mul_of_inRange (h : InRange (x * y)) : Decimal.mul (.finite x) (.finite y) = .ok (.finite (rounded (x * y))) := if_pos h

theorem mul_of_not_inRange (h : ¬ InRange (x * y)) : Decimal.mul (.finite x) (.finite y) = .error .overflow := if_neg h

theorem div_of_inRange (hy : y ≠ 0) (h : InRange (x / y)) : Decimal.div (.finite x) (.finite y) = .ok (.finite (rounded (x / y))) :=
  (if_neg hy).trans (if_pos h)

theorem div_of_not_inRange (hy : y ≠ 0) (h : ¬ InRange (x / y)) : Decimal.div (.finite x) (.finite y) = .error .overflow :=
  (if_neg hy).trans (if_neg h)

theorem sub_of_inRange (h : InRange (x - y)) : Decimal.sub (.finite x) (.finite y) = .ok (.finite (rounded (x - y))) := if_pos h

theorem sub_of_not_inRange (h : ¬ InRange (x - y)) : Decimal.sub (.finite x) (.finite y) = .error .overflow := if_neg h

end Finite

theorem rounded_zero : rounded 0 = 0 := by
  unfold rounded
  split
  · rw [zero_div]
    have h : roundHalfEven 0 = 0 := by simpa using roundHalfEven_intCast 0
    rw [h, Int.cast_zero, zero_mul]
  · exact roundContext_zero

theorem tooLarge_pos : 0 < tooLarge := by
  unfold tooLarge
  exact pow_pos (by norm_num) _

theorem inRange_zero : InRange 0 := by
  unfold InRange
  rw [rounded_zero, abs_zero]
  exact tooLarge_pos

/-! ### How far a value is moved -/

theorem leastUnit_pos : 0 < leastUnit := by
  unfold leastUnit
  exact zpow_pos (by norm_num) _

theorem abs_rounded_sub_of_small {x : ℚ} (h : |x| < leastNormal) : |rounded x - x| ≤ leastUnit / 2 := by
  have hpos := leastUnit_pos
  have hround := abs_roundHalfEven_sub_le (x / leastUnit)
  have heq : rounded x - x = (roundHalfEven (x / leastUnit) - x / leastUnit) * leastUnit := by
    rw [rounded, if_pos h, sub_mul, div_mul_cancel₀ _ hpos.ne']
  rw [heq, abs_mul, abs_of_pos hpos]
  calc |(roundHalfEven (x / leastUnit) : ℚ) - x / leastUnit| * leastUnit ≤ 1 / 2 * leastUnit :=
        mul_le_mul_of_nonneg_right hround hpos.le
    _ = leastUnit / 2 := by ring

theorem abs_rounded_sub_of_large {x : ℚ} (h : ¬ |x| < leastNormal) : |rounded x - x| ≤ |x| / 10 ^ (contextPrec - 1) := by
  rw [rounded, if_neg h]
  exact abs_roundContext_sub_le x

theorem rounded_bounds {x : ℚ} (h : rounded x ≠ 0) : |x| ≤ 3 / 2 * |rounded x| ∧ |rounded x| ≤ 2 * |x| := by
  have hfar := abs_sub_abs_le_abs_sub (rounded x) x
  have hnear := abs_sub_abs_le_abs_sub x (rounded x)
  rw [abs_sub_comm] at hnear
  by_cases hsmall : |x| < leastNormal
  · -- It is a whole number of the least units, and not zero.
    have hmoved := abs_rounded_sub_of_small hsmall
    have hunit : leastUnit ≤ |rounded x| := by
      rw [rounded, if_pos hsmall] at h ⊢
      have hone : (1 : ℚ) ≤ |(roundHalfEven (x / leastUnit) : ℚ)| := by
        have hint : roundHalfEven (x / leastUnit) ≠ 0 := fun hzero => h (by rw [hzero, Int.cast_zero, zero_mul])
        exact_mod_cast Int.one_le_abs hint
      rw [abs_mul, abs_of_pos leastUnit_pos]
      exact le_mul_of_one_le_left leastUnit_pos.le hone
    constructor <;> linarith
  · have hmoved := abs_rounded_sub_of_large hsmall
    have hfraction : |x| / 10 ^ (contextPrec - 1) ≤ |x| / 4 :=
      div_le_div_of_nonneg_left (abs_nonneg x) (by norm_num) (by norm_num [contextPrec])
    constructor <;> linarith [abs_nonneg x]

theorem leastNormal_lt : leastNormal < 1 / 10 ^ 27 := by
  unfold leastNormal
  calc (10 : ℚ) ^ (-999999 : ℤ) < 10 ^ (-27 : ℤ) := zpow_lt_zpow_right₀ (by norm_num) (by norm_num)
    _ = 1 / 10 ^ 27 := by rw [zpow_neg, one_div]; rfl

theorem leastUnit_lt : leastUnit < 1 / 10 ^ 27 := by
  unfold leastUnit
  calc (10 : ℚ) ^ (-1000026 : ℤ) < 10 ^ (-27 : ℤ) := zpow_lt_zpow_right₀ (by norm_num) (by norm_num)
    _ = 1 / 10 ^ 27 := by rw [zpow_neg, one_div]; rfl

theorem abs_roundScale_rounded_sub_le (x : ℚ) : |roundScale 4 (rounded x) - x| ≤ 1 / 20000 + |x| / 10 ^ 27 := by
  by_cases hsmall : |x| < leastNormal
  · -- Nothing is left of it.
    have hmoved := abs_rounded_sub_of_small hsmall
    have hnormal := leastNormal_lt
    have hunit := leastUnit_lt
    have hrounded : |rounded x - ((0 : ℤ) : ℚ) / 10 ^ 4| < 1 / 2 / 10 ^ 4 := by
      have hsize := abs_sub_abs_le_abs_sub (rounded x) x
      have htiny : (1 : ℚ) / 10 ^ 27 < 1 / 100000 := by norm_num
      rw [Int.cast_zero, zero_div, sub_zero]
      linarith
    have hzero := roundScale_eq_of_abs_sub_lt hrounded
    rw [hzero, Int.cast_zero, zero_div, zero_sub, abs_neg]
    have htiny : (1 : ℚ) / 10 ^ 27 < 1 / 20000 := by norm_num
    have hnonneg : 0 ≤ |x| / 10 ^ 27 := by positivity
    linarith
  · have hmoved := abs_rounded_sub_of_large hsmall
    have hscaled := abs_roundScale_sub_le 4 (rounded x)
    have htriangle := abs_sub_le (roundScale 4 (rounded x)) (rounded x) x
    have hprec : contextPrec - 1 = 27 := rfl
    rw [hprec] at hmoved
    have hhalf : (1 : ℚ) / 2 / 10 ^ 4 = 1 / 20000 := by norm_num
    linarith

/-! ### What is written with few digits -/

theorem rounded_zpow {n : ℤ} (hn : |n| < 10 ^ contextPrec) {k : ℤ} (hk : -999999 ≤ k) : rounded (n * 10 ^ k) = n * 10 ^ k := by
  by_cases hzero : n = 0
  · rw [hzero, Int.cast_zero, zero_mul, rounded_zero]
  have hpow : (0 : ℚ) < 10 ^ k := zpow_pos (by norm_num) k
  have hsize : ¬ |(n : ℚ) * 10 ^ k| < leastNormal := by
    rw [not_lt, abs_mul, abs_of_pos hpow]
    calc leastNormal ≤ 10 ^ k := zpow_le_zpow_right₀ (by norm_num) hk
      _ ≤ |(n : ℚ)| * 10 ^ k := le_mul_of_one_le_left hpow.le (by exact_mod_cast Int.one_le_abs hzero)
  rw [rounded, if_neg hsize, roundContext_zpow hn]

theorem mul_zpow {x y : ℚ} {n : ℤ} (hn : |n| < 10 ^ contextPrec) {k : ℤ} (hk : -999999 ≤ k) (hk' : k ≤ 999972) (h : x * y = n * 10 ^ k) :
    Decimal.mul (.finite x) (.finite y) = .ok (.finite (x * y)) := by
  have hrounded : rounded (x * y) = x * y := by rw [h, rounded_zpow hn hk]
  have hpow : (0 : ℚ) < 10 ^ k := zpow_pos (by norm_num) k
  have hrange : InRange (x * y) := by
    rw [InRange, hrounded, h, abs_mul, abs_of_pos hpow]
    calc |(n : ℚ)| * 10 ^ k < 10 ^ contextPrec * 10 ^ k :=
          mul_lt_mul_of_pos_right (by exact_mod_cast hn) hpow
      _ ≤ 10 ^ contextPrec * 10 ^ (999972 : ℤ) :=
          mul_le_mul_of_nonneg_left (zpow_le_zpow_right₀ (by norm_num) hk') (by positivity)
      _ = tooLarge := by
          rw [tooLarge, ← zpow_natCast, ← zpow_natCast, ← zpow_add₀ (by norm_num)]
          rfl
  rw [mul_of_inRange hrange, hrounded]

end CestaPlan.Ingestion
