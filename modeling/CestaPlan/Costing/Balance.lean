import CestaPlan.Costing.RecipeCosting
import Mathlib.Tactic.Linarith

/-! The accounts of a costed recipe. Whole packages cover what is required, so that what is consumed is at most what is paid; and the
    amounts of the lines are whole cents, which the context adds up without a loss for as long as it can quantize the totals. -/

namespace CestaPlan.Costing
open Engine (Runtime Dimension toBase massToG volumeToMl countUnits normUnit)
open Regex (Alphabet)
open Numeric
open Ingestion (eggPackSize eggPackSize_bounds)

section Purchases
variable {py : Runtime} {u : Alphabet} {requiredBase price : ℚ} {requiredDim dim : Dimension} {r p : ℤ} {cand : Candidate}
  {purchase : Purchase}

/-- A quantity in a base unit: the amount of a column times a factor. -/
def BaseDigits (x : ℚ) : Prop := ∃ n : ℤ, x = n / 10 ^ 7 ∧ |n| < 10 ^ 18

theorem factor_thousandths {unit : String} {factor : ℚ} (h : massToG.lookup unit = some factor ∨ volumeToMl.lookup unit = some factor) :
    ∃ k : ℕ, factor = k / 1000 ∧ k ≤ 10 ^ 6 := by
  have hall : ∀ entry ∈ massToG ++ volumeToMl, ∃ k : ℕ, entry.2 = k / 1000 ∧ k ≤ 10 ^ 6 := by
    simp only [massToG, volumeToMl, List.cons_append, List.nil_append, List.forall_mem_cons]
    refine ⟨⟨1000, ?_⟩, ⟨10 ^ 6, ?_⟩, ⟨1, ?_⟩, ⟨500, ?_⟩, ⟨1000, ?_⟩, ⟨10 ^ 6, ?_⟩, ⟨10000, ?_⟩, ⟨15000, ?_⟩, ⟨5000, ?_⟩, ⟨200000, ?_⟩,
      ⟨240000, ?_⟩, by simp⟩ <;> norm_num
  have hmem : (unit, factor) ∈ massToG ++ volumeToMl := by
    rcases h with h | h
    · obtain ⟨before, after, heq, -⟩ := List.lookup_eq_some_iff.mp h
      exact List.mem_append_left _ (heq ▸ List.mem_append_right _ List.mem_cons_self)
    · obtain ⟨before, after, heq, -⟩ := List.lookup_eq_some_iff.mp h
      exact List.mem_append_right _ (heq ▸ List.mem_append_right _ List.mem_cons_self)
  exact hall _ hmem

theorem baseDigits_value (a : Amount) : BaseDigits a.value := by
  refine ⟨a.tenThousandths * 1000, by unfold Amount.value; push_cast; ring, ?_⟩
  have := a.fits
  rw [abs_mul, abs_of_pos (show (0 : ℤ) < 1000 by decide)]
  omega

theorem mul_factor (hround : py.round = roundContext) (a : Amount) {unit : String} {factor : ℚ}
    (h : massToG.lookup unit = some factor ∨ volumeToMl.lookup unit = some factor) :
    py.mul a.value factor = a.value * factor ∧ BaseDigits (a.value * factor) := by
  obtain ⟨k, rfl, hk⟩ := factor_thousandths h
  have hexact : a.value * (k / 1000) = ((a.tenThousandths * k : ℤ) : ℚ) / 10 ^ 7 := by
    unfold Amount.value
    push_cast
    ring
  have hfits : |a.tenThousandths * (k : ℤ)| < 10 ^ 18 := by
    rw [abs_mul, abs_of_nonneg (show (0 : ℤ) ≤ k by positivity)]
    calc |a.tenThousandths| * (k : ℤ) ≤ |a.tenThousandths| * 10 ^ 6 :=
          mul_le_mul_of_nonneg_left (by exact_mod_cast hk) (abs_nonneg _)
      _ < 10 ^ 12 * 10 ^ 6 := mul_lt_mul_of_pos_right a.fits (by positivity)
  refine ⟨?_, _, hexact, hfits⟩
  rw [Runtime.mul, hround, hexact, roundContext_of_int (hfits.trans (by norm_num [contextPrec]))]

theorem toBase_digits (hround : py.round = roundContext) {a : Amount} {unit : String} {b : ℚ}
    (h : toBase py a.value unit = some (b, dim)) : BaseDigits b := by
  unfold toBase at h
  dsimp only at h
  split at h
  · next factor hfactor =>
    obtain ⟨hexact, hdigits⟩ := mul_factor hround a (.inl hfactor)
    cases h
    exact hexact ▸ hdigits
  · split at h
    · next factor hfactor =>
      obtain ⟨hexact, hdigits⟩ := mul_factor hround a (.inr hfactor)
      cases h
      exact hexact ▸ hdigits
    · split at h
      · cases h
        exact baseDigits_value a
      · cases h

theorem toBase_nonneg (hround : py.round = roundContext) {q : ℚ} {unit : String} {b : ℚ} (hq : 0 ≤ q)
    (h : toBase py q unit = some (b, dim)) : 0 ≤ b := by
  unfold toBase at h
  dsimp only at h
  split at h
  · next factor hfactor =>
    cases h
    rw [Runtime.mul, hround]
    exact roundContext_nonneg (mul_nonneg hq (Engine.massToG_pos hfactor).le)
  · split at h
    · next factor hfactor =>
      cases h
      rw [Runtime.mul, hround]
      exact roundContext_nonneg (mul_nonneg hq (Engine.volumeToMl_pos hfactor).le)
    · split at h
      · cases h
        exact hq
      · cases h

/-- What is bought covers what is required, and its cost is an amount of the context. -/
structure Purchase.Covers (purchase : Purchase) (requiredBase : ℚ) : Prop where
  covers : requiredBase ≤ purchase.purchasedBase
  positive : 0 < purchase.purchasedBase
  cost : 0 ≤ purchase.lineCost
  exact : roundContext purchase.lineCost = purchase.lineCost

theorem le_ceil_of_near {y : ℚ} (hr : |r| < 10 ^ 18) (hp : 0 < p) (hnear : (r : ℚ) / p - y ≤ 3 * (|(r : ℚ) / p| / 10 ^ 27)) :
    (r : ℚ) / p ≤ ⌈y⌉ := by
  have hp' : (0 : ℚ) < p := by exact_mod_cast hp
  by_contra hlt
  -- Then the quotient is above the integer by a part of the divisor at least, which is more than the distance.
  have hint : ⌈y⌉ * p + 1 ≤ r := by
    have := (lt_div_iff₀ hp').mp (not_le.mp hlt)
    exact_mod_cast this
  have hgap : (⌈y⌉ : ℚ) + 1 / p ≤ r / p := by
    rw [← sub_nonneg]
    have : (r : ℚ) / p - (⌈y⌉ + 1 / p) = (r - (⌈y⌉ * p + 1)) / p := by field_simp
    rw [this]
    exact div_nonneg (sub_nonneg.mpr (by exact_mod_cast hint)) hp'.le
  have hsmall : 3 * (|(r : ℚ) / p| / 10 ^ 27) < 1 / p := by
    have heq : 3 * (|(r : ℚ) / p| / 10 ^ 27) = 3 * |(r : ℚ)| / 10 ^ 27 / p := by
      rw [abs_div, abs_of_pos hp']
      ring
    rw [heq, div_lt_div_iff_of_pos_right hp', div_lt_one (by positivity)]
    have : |(r : ℚ)| < 10 ^ 18 := by exact_mod_cast hr
    linarith
  have hceil := Int.le_ceil y
  linarith

theorem le_ceil_div (hround : py.round = roundContext) (hr : |r| < 10 ^ 18) (hp : 0 < p) :
    (r : ℚ) / p ≤ ⌈py.div (r / 10 ^ 7) (p / 10 ^ 7)⌉ := by
  refine le_ceil_of_near hr hp ?_
  rw [Runtime.div, hround, div_div_div_cancel_right₀ (by positivity)]
  have herr := (abs_le.mp (abs_roundContext_sub_le ((r : ℚ) / p))).1
  have : (0 : ℚ) ≤ |(r : ℚ) / p| / 10 ^ 27 := by positivity
  rw [show contextPrec - 1 = 27 from rfl] at herr
  linarith

theorem packages_mul_lt (hround : py.round = roundContext) (hr : |r| < 10 ^ 18) (hp : |p| < 10 ^ 18) (hp0 : 0 < p) :
    max ⌈py.div (r / 10 ^ 7) (p / 10 ^ 7)⌉ 1 * p < 10 ^ contextPrec := by
  have hp0' : (0 : ℚ) < p := by exact_mod_cast hp0
  have hquotient : py.div ((r : ℚ) / 10 ^ 7) (p / 10 ^ 7) ≤ 2 * 10 ^ 18 / p := by
    rw [Runtime.div, hround, div_div_div_cancel_right₀ (by positivity)]
    have herr := (abs_le.mp (abs_roundContext_sub_le ((r : ℚ) / p))).2
    have hsmall : |(r : ℚ) / p| / 10 ^ (contextPrec - 1) ≤ |(r : ℚ) / p| :=
      div_le_self (abs_nonneg _) (by norm_num [contextPrec])
    have hle : |(r : ℚ) / p| ≤ 10 ^ 18 / p := by
      rw [abs_div, abs_of_pos hp0']
      exact div_le_div_of_nonneg_right (by exact_mod_cast hr.le) hp0'.le
    have := le_abs_self ((r : ℚ) / p)
    rw [mul_div_assoc]
    linarith
  have hcount : ((max ⌈py.div ((r : ℚ) / 10 ^ 7) (p / 10 ^ 7)⌉ 1 : ℤ) : ℚ) ≤ 2 * 10 ^ 18 / p + 1 := by
    have hceil := Int.ceil_lt_add_one (py.div ((r : ℚ) / 10 ^ 7) (p / 10 ^ 7))
    push_cast
    exact max_le (by linarith) (le_add_of_nonneg_left (by positivity))
  have hp18 : (p : ℚ) < 10 ^ 18 := by exact_mod_cast (le_abs_self p).trans_lt hp
  have hreal : ((max ⌈py.div ((r : ℚ) / 10 ^ 7) (p / 10 ^ 7)⌉ 1 : ℤ) : ℚ) * p < 10 ^ contextPrec := by
    calc _ ≤ (2 * 10 ^ 18 / p + 1) * (p : ℚ) := mul_le_mul_of_nonneg_right hcount hp0'.le
      _ = 2 * 10 ^ 18 + p := by field_simp
      _ < 10 ^ contextPrec := by norm_num [contextPrec] at hp18 ⊢; linarith
  exact_mod_cast hreal

theorem wholePackages_covers (hround : py.round = roundContext) {packBase : ℚ} (hrequired : BaseDigits requiredBase)
    (hpack : BaseDigits packBase) (hpos : 0 < packBase) (hprice : 0 < price) :
    (wholePackages py requiredBase packBase price).Covers requiredBase := by
  obtain ⟨r, rfl, hr⟩ := hrequired
  obtain ⟨p, rfl, hp⟩ := hpack
  have hp0 : 0 < p := by
    have := (div_pos_iff_of_pos_right (show (0 : ℚ) < 10 ^ 7 by positivity)).mp hpos
    exact_mod_cast this
  have hbound := packages_mul_lt hround hr hp hp0
  set n := max ⌈py.div ((r : ℚ) / 10 ^ 7) (p / 10 ^ 7)⌉ 1 with hn
  have hn1 : 1 ≤ n := le_max_right _ _
  have hcover : (r : ℚ) / 10 ^ 7 ≤ n * ((p : ℚ) / 10 ^ 7) := by
    have hle := (le_ceil_div hround hr hp0).trans (Int.cast_le.mpr (le_max_left _ 1))
    rw [div_le_iff₀ (by exact_mod_cast hp0)] at hle
    rw [mul_div_assoc', div_le_div_iff_of_pos_right (by positivity)]
    exact hle
  have hexact : py.mul n ((p : ℚ) / 10 ^ 7) = n * ((p : ℚ) / 10 ^ 7) := by
    rw [Runtime.mul, hround, mul_div_assoc', ← Int.cast_mul]
    exact roundContext_of_int (by rw [abs_of_pos (mul_pos (by omega) hp0)]; exact hbound)
  have hn0 : (0 : ℚ) < n := by exact_mod_cast (show 0 < n by omega)
  refine ⟨?_, ?_, ?_, ?_⟩
  · exact hcover.trans_eq hexact.symm
  · exact (mul_pos hn0 hpos).trans_eq hexact.symm
  · show 0 ≤ py.mul n price
    rw [Runtime.mul, hround]
    exact roundContext_nonneg (mul_pos hn0 hprice).le
  · show roundContext (py.mul n price) = py.mul n price
    rw [Runtime.mul, hround, roundContext_roundContext]

theorem countPackUnits_digits (v : ProductVariant) :
    BaseDigits ((countPackUnits py u v).getD 1) ∧ 0 < (countPackUnits py u v).getD 1 := by
  unfold countPackUnits
  split
  · next pq hpq =>
    have hpos := (Option.filter_eq_some_iff.mp hpq).2
    rw [Bool.and_eq_true, decide_eq_true_eq] at hpos
    exact ⟨baseDigits_value pq, hpos.1⟩
  · cases heggs : eggPackSize py u v.displayName with
    | none => exact ⟨⟨10 ^ 7, by norm_num, by norm_num⟩, one_pos⟩
    | some n =>
      obtain ⟨hpos, hlt⟩ := eggPackSize_bounds py u heggs
      refine ⟨⟨n * 10 ^ 7, ?_, ?_⟩, by simpa using hpos⟩
      · show (n : ℚ) = _
        push_cast
        ring
      · rw [abs_of_nonneg (by positivity)]
        omega

theorem fixedPackageCost_covers (hround : py.round = roundContext) (hrequired : BaseDigits requiredBase) (hprice : 0 < price)
    {netContentQuantity : Option Amount} {netContentUnit : Option String}
    (h : fixedPackageCost py requiredBase requiredDim netContentQuantity netContentUnit price = some purchase) :
    purchase.Covers requiredBase := by
  unfold fixedPackageCost at h
  rw [if_neg (not_le.mpr hprice)] at h
  split at h
  · split at h
    · next packBase dim hbase =>
      split at h
      · cases h
      · next hok =>
        cases h
        rw [Bool.or_eq_true, decide_eq_true_eq, decide_eq_true_eq, not_or, not_le] at hok
        exact wholePackages_covers hround hrequired (toBase_digits hround hbase) hok.2 hprice
    · cases h
  · cases h

theorem measuredCost_covers (hround : py.round = roundContext) (h : measuredCost py requiredBase requiredDim cand = some purchase) :
    purchase.Covers requiredBase := by
  unfold measuredCost at h
  split at h
  · next unitPrice unit _ _ =>
    split at h
    · next sell dim hsell =>
      split at h
      · cases h
      · dsimp only at h
        generalize (if cand.variant.variableWeight = true then cand.price else unitPrice.value) = perUnitPrice at h
        split at h
        · cases h
        · next hunit =>
          cases h
          have hsell0 : 0 ≤ sell := toBase_nonneg hround zero_le_one hsell
          have hbase : (1 : ℤ) ≤ max ⌈requiredBase⌉ 1 := le_max_right _ _
          have hbase0 : (0 : ℚ) < ((max ⌈requiredBase⌉ 1 : ℤ) : ℚ) := by exact_mod_cast hbase
          refine ⟨(Int.le_ceil _).trans (Int.cast_le.mpr (le_max_left _ _)), hbase0, ?_, ?_⟩
          · show 0 ≤ py.mul _ (py.div _ sell)
            rw [Runtime.mul, Runtime.div, hround]
            exact roundContext_nonneg (mul_nonneg hbase0.le (roundContext_nonneg (div_nonneg (not_le.mp hunit).le hsell0)))
          · show roundContext (py.mul _ _) = py.mul _ _
            rw [Runtime.mul, hround, roundContext_roundContext]
    · cases h
  · cases h

theorem costCandidate_covers (hround : py.round = roundContext) (hrequired : BaseDigits requiredBase)
    (h : costCandidate py u requiredBase requiredDim cand = some purchase) : purchase.Covers requiredBase := by
  unfold costCandidate at h
  dsimp only at h
  split at h
  · cases h
  · next hprice =>
    have hprice := not_le.mp hprice
    have hpacks := @countPackUnits_digits py u cand.variant
    split at h
    · split at h
      · split at h
        · cases h
          exact wholePackages_covers hround hrequired hpacks.1 hpacks.2 hprice
        · cases h
      · exact fixedPackageCost_covers hround hrequired hprice h
    · split at h
      · split at h
        · cases h
          exact wholePackages_covers hround hrequired hpacks.1 hpacks.2 hprice
        · cases h
      · exact fixedPackageCost_covers hround hrequired hprice h
    · exact measuredCost_covers hround h
    · exact measuredCost_covers hround h
    · cases h

end Purchases

/-! ### The lines -/

/-- What is consumed is at most what is paid and nothing is missing; and nothing is taken back where nothing negative is asked for. -/
structure IngredientCostLine.Sound (line : IngredientCostLine) : Prop where
  atMost : ∀ consumed ∈ line.consumedCost, ∀ paid ∈ line.lineCost, consumed ≤ paid
  surplus : ∀ quantity ∈ line.surplusQuantity, 0 ≤ quantity
  consumed : 0 ≤ line.requiredQuantity → ∀ consumed ∈ line.consumedCost, 0 ≤ consumed

/-- A line of so many cents, and what becomes of them. -/
structure IngredientCostLine.Cents (line : IngredientCostLine) (paid consumed left : ℤ) : Prop where
  lineCost : line.lineCost = some ((paid : ℚ) / 10 ^ 2)
  consumedCost : line.consumedCost = some ((consumed : ℚ) / 10 ^ 2)
  surplusValue : line.surplusValue = some ((left : ℚ) / 10 ^ 2)
  split : paid = consumed + left
  paid_nonneg : 0 ≤ paid
  left_nonneg : 0 ≤ left

section Lines
variable {py : Runtime} {u : Alphabet} {catalog : Catalog} {retailerId : Int} {providerCode : String} {storeId : Option Int}
  {requiredScope : String} {now : History.Instant} {ri : RecipeIngredient} {line : IngredientCostLine} {requiredBase : ℚ}
  {cand : Candidate} {purchase : Purchase}

theorem Purchase.Covers.consumed_le (hround : py.round = roundContext) (hcovers : purchase.Covers requiredBase) :
    py.mul purchase.lineCost (py.div requiredBase purchase.purchasedBase) ≤ purchase.lineCost := by
  have hratio : py.div requiredBase purchase.purchasedBase ≤ 1 := by
    rw [Runtime.div, hround]
    calc roundContext (requiredBase / purchase.purchasedBase) ≤ roundContext ((1 : ℤ) : ℚ) :=
          roundContext_mono (by rw [Int.cast_one, div_le_one hcovers.positive]; exact hcovers.covers)
      _ = 1 := (roundContext_intCast (by norm_num [contextPrec])).trans Int.cast_one
  rw [Runtime.mul, hround]
  calc _ ≤ roundContext purchase.lineCost := roundContext_mono (mul_le_of_le_one_right hcovers.cost hratio)
    _ = purchase.lineCost := hcovers.exact

theorem cents_of_quantize (hround : py.round = roundContext) {cost value paid consumed left : ℚ} (hle : consumed ≤ paid)
    (hnonneg : 0 ≤ paid) (hpaid : quantize 2 cost = some paid) (hconsumed : quantize 2 value = some consumed)
    (hleft : quantize 2 (py.sub paid consumed) = some left) : ∃ m n : ℤ, 0 ≤ m ∧ n ≤ m ∧ paid = m / 10 ^ 2 ∧ consumed = n / 10 ^ 2 ∧
      left = ((m - n : ℤ) : ℚ) / 10 ^ 2 := by
  obtain ⟨-, hpaid⟩ := quantize_eq_some_iff.mp hpaid
  obtain ⟨-, hconsumed⟩ := quantize_eq_some_iff.mp hconsumed
  generalize roundHalfEven (cost * 10 ^ 2) = m at hpaid
  generalize roundHalfEven (value * 10 ^ 2) = n at hconsumed
  have hnm : n ≤ m := by
    rw [hpaid, hconsumed] at hle
    exact_mod_cast (div_le_div_iff_of_pos_right (by positivity)).mp hle
  have hm : 0 ≤ m := by
    rw [hpaid] at hnonneg
    have hscaled := mul_nonneg hnonneg (show (0 : ℚ) ≤ 10 ^ 2 by positivity)
    rw [div_mul_cancel₀ _ (by positivity)] at hscaled
    exact_mod_cast hscaled
  refine ⟨m, n, hm, hnm, hpaid, hconsumed, quantize_sub_of_int hnm ?_⟩
  rwa [Runtime.sub, hround, hpaid, hconsumed] at hleft

theorem boughtLine_spec (hround : py.round = roundContext) (hcovers : purchase.Covers requiredBase)
    (hsign : 0 ≤ ri.quantity.value → 0 ≤ requiredBase) (h : boughtLine py ri requiredBase cand purchase = some line) :
    line.optional = ri.optional ∧ line.Sound ∧ ∃ paid consumed left, line.Cents paid consumed left := by
  unfold boughtLine at h
  rw [if_pos hcovers.positive] at h
  obtain ⟨consumed, hconsumed, h⟩ := Option.bind_eq_some_iff.mp h
  obtain ⟨packagePrice, -, h⟩ := Option.bind_eq_some_iff.mp h
  obtain ⟨unitsPurchased, -, h⟩ := Option.bind_eq_some_iff.mp h
  obtain ⟨purchasedQuantity, -, h⟩ := Option.bind_eq_some_iff.mp h
  obtain ⟨consumedQuantity, -, h⟩ := Option.bind_eq_some_iff.mp h
  obtain ⟨surplus, hsurplus, h⟩ := Option.bind_eq_some_iff.mp h
  obtain ⟨paid, hpaid, h⟩ := Option.bind_eq_some_iff.mp h
  obtain ⟨left, hleft, h⟩ := Option.bind_eq_some_iff.mp h
  obtain rfl := Option.some.inj h
  have hle : consumed ≤ paid := quantize_le (hcovers.consumed_le hround) hconsumed hpaid
  have hnonneg : 0 ≤ paid := quantize_nonneg hcovers.cost hpaid
  refine ⟨rfl, ⟨?_, ?_, ?_⟩, ?_⟩
  · rintro c ⟨⟩ p ⟨⟩
    exact hle
  · rintro q ⟨⟩
    refine quantize_nonneg ?_ hsurplus
    rw [Runtime.sub, hround]
    exact roundContext_nonneg (sub_nonneg.mpr hcovers.covers)
  · rintro hq c ⟨⟩
    refine quantize_nonneg ?_ hconsumed
    rw [Runtime.mul, Runtime.div, hround]
    exact roundContext_nonneg (mul_nonneg hcovers.cost (roundContext_nonneg (div_nonneg (hsign hq) hcovers.positive.le)))
  · obtain ⟨m, n, hm, hnm, rfl, rfl, rfl⟩ := cents_of_quantize hround hle hnonneg hpaid hconsumed hleft
    exact ⟨m, n, m - n, ⟨rfl, rfl, rfl, by ring, hm, sub_nonneg.mpr hnm⟩⟩

theorem costLine_spec (hround : py.round = roundContext)
    (h : costLine py u catalog retailerId providerCode storeId requiredScope now ri = some line) :
    line.optional = ri.optional ∧ line.Sound ∧ (line.lineCost.isSome = true → ∃ paid consumed left, line.Cents paid consumed left) := by
  have hblank : ∀ reason : String, IngredientCostLine.Sound { blankLine ri with reason := some reason } :=
    fun reason => ⟨by rintro _ ⟨⟩, by rintro _ ⟨⟩, by rintro _ _ ⟨⟩⟩
  unfold costLine at h
  split at h
  · cases h
    exact ⟨rfl, hblank _, by rintro ⟨⟩⟩
  · next requiredBase requiredDim hbase =>
    dsimp only at h
    split at h
    · cases h
      exact ⟨rfl, hblank _, by rintro ⟨⟩⟩
    · split at h
      · cases h
        exact ⟨rfl, hblank _, by rintro ⟨⟩⟩
      · next cand purchase hbest =>
        have hmem := List.argmin_mem hbest
        obtain ⟨v, -, hv⟩ := List.mem_filterMap.mp hmem
        obtain ⟨cand', -, hv⟩ := Option.bind_eq_some_iff.mp hv
        obtain ⟨purchase', hcost, hv⟩ := Option.bind_eq_some_iff.mp hv
        cases hv
        obtain ⟨hoptional, hsound, hcents⟩ := boughtLine_spec hround
          (costCandidate_covers hround (toBase_digits hround hbase) hcost) (fun hq => toBase_nonneg hround hq hbase) h
        exact ⟨hoptional, hsound, fun _ => hcents⟩

end Lines

/-! ### The totals -/

section Totals
variable {py : Runtime} {lines : List IngredientCostLine} {line : IngredientCostLine}

theorem add_eq_addContext (hround : py.round = roundContext) : py.add = addContext := by
  funext x y
  rw [Runtime.add, hround, addContext]

theorem tallyOf_append : tallyOf py (lines ++ [line]) = (tallyOf py lines).add py line := List.foldl_append

theorem tallyOf_totals (hround : py.round = roundContext)
    (hcents : ∀ line ∈ lines, line.lineCost.isSome = true → ∃ paid consumed left, line.Cents paid consumed left) :
    ∃ xs : List (ℤ × ℤ), (∀ x ∈ xs, 0 ≤ x.1 ∧ 0 ≤ x.2) ∧
      (tallyOf py lines).totalPurchase = ((xs.map Prod.fst).map fun x : ℤ => (x : ℚ) / 10 ^ 2).foldl addContext 0 ∧
      (tallyOf py lines).totalConsumed = ((xs.map fun x => x.1 - x.2).map fun x : ℤ => (x : ℚ) / 10 ^ 2).foldl addContext 0 ∧
      (tallyOf py lines).totalSurplus = ((xs.map Prod.snd).map fun x : ℤ => (x : ℚ) / 10 ^ 2).foldl addContext 0 := by
  induction lines using List.reverseRecOn with
  | nil => exact ⟨[], by simp, rfl, rfl, rfl⟩
  | append_singleton lines line ih =>
    obtain ⟨xs, hxs, hpurchase, hconsumed, hsurplus⟩ := ih fun l hl => hcents l (List.mem_append_left _ hl)
    rw [tallyOf_append]
    unfold Tally.add
    split
    · exact ⟨xs, hxs, hpurchase, hconsumed, hsurplus⟩
    · split
      · next lineCost _ hcost =>
        obtain ⟨paid, consumed, left, hline⟩ := hcents line (List.mem_append_right _ (List.mem_singleton_self line)) (by rw [hcost]; rfl)
        obtain rfl := Option.some.inj (hcost.symm.trans hline.lineCost)
        have hdiff : consumed = paid - left := by have := hline.split; omega
        refine ⟨xs ++ [(paid, left)], ?_, ?_, ?_, ?_⟩
        · intro x hx
          rcases List.mem_append.mp hx with hx | hx
          · exact hxs x hx
          · rw [List.mem_singleton.mp hx]
            exact ⟨hline.paid_nonneg, hline.left_nonneg⟩
        · simp only [add_eq_addContext hround, hpurchase, List.map_append, List.foldl_append, List.map_cons, List.map_nil,
            List.foldl_cons, List.foldl_nil]
        · simp only [add_eq_addContext hround, hconsumed, hline.consumedCost, hdiff, Option.getD_some, List.map_append,
            List.foldl_append, List.map_cons, List.map_nil, List.foldl_cons, List.foldl_nil]
        · simp only [add_eq_addContext hround, hsurplus, hline.surplusValue, Option.getD_some, List.map_append, List.foldl_append,
            List.map_cons, List.map_nil, List.foldl_cons, List.foldl_nil]
      · exact ⟨xs, hxs, hpurchase, hconsumed, hsurplus⟩

theorem tallyOf_filter : tallyOf py (lines.filter (!·.optional)) = { tallyOf py lines with excluded := [] } := by
  induction lines using List.reverseRecOn with
  | nil => rfl
  | append_singleton lines line ih =>
    rw [List.filter_append, tallyOf_append]
    cases hoptional : line.optional with
    | true =>
      rw [List.filter_cons_of_neg (by simp [hoptional]), List.filter_nil, List.append_nil, ih]
      unfold Tally.add
      rw [if_pos hoptional]
    | false =>
      rw [List.filter_cons_of_pos (by simp [hoptional]), List.filter_nil, tallyOf_append, ih]
      unfold Tally.add
      rw [if_neg (by simp [hoptional]), if_neg (by simp [hoptional])]
      split <;> rfl

theorem sum_take_bounds {xs : List ℤ} (hpos : ∀ x ∈ xs, 0 ≤ x) (k : ℕ) : 0 ≤ (xs.take k).sum ∧ (xs.take k).sum ≤ xs.sum := by
  have hfront := List.sum_nonneg fun x hx => hpos x (List.mem_of_mem_take (i := k) hx)
  have hback := List.sum_nonneg fun x hx => hpos x (List.mem_of_mem_drop (i := k) hx)
  have hsum := congrArg List.sum (List.take_append_drop k xs)
  rw [List.sum_append] at hsum
  exact ⟨hfront, by omega⟩

theorem sum_map_sub (xs : List (ℤ × ℤ)) : (xs.map fun x => x.1 - x.2).sum = (xs.map Prod.fst).sum - (xs.map Prod.snd).sum := by
  induction xs with
  | nil => rfl
  | cons x xs ih =>
    rw [List.map_cons, List.map_cons, List.map_cons, List.sum_cons, List.sum_cons, List.sum_cons, ih]
    ring

/-- Quantized totals are exact: the amounts paid and left bound every partial sum, also of what is consumed. -/
theorem totals_exact (xs : List (ℤ × ℤ)) (hxs : ∀ x ∈ xs, 0 ≤ x.1 ∧ 0 ≤ x.2) {a b : ℚ}
    (ha : quantize 2 (((xs.map Prod.fst).map fun x : ℤ => (x : ℚ) / 10 ^ 2).foldl addContext 0) = some a)
    (hb : quantize 2 (((xs.map Prod.snd).map fun x : ℤ => (x : ℚ) / 10 ^ 2).foldl addContext 0) = some b) :
    a = (((xs.map Prod.fst).sum : ℤ) : ℚ) / 10 ^ 2 ∧ b = (((xs.map Prod.snd).sum : ℤ) : ℚ) / 10 ^ 2 ∧
      ((xs.map fun x => x.1 - x.2).map fun x : ℤ => (x : ℚ) / 10 ^ 2).foldl addContext 0 =
        (((xs.map Prod.fst).sum - (xs.map Prod.snd).sum : ℤ) : ℚ) / 10 ^ 2 := by
  have hzero : (0 : ℚ) = ((0 : ℤ) : ℚ) / 10 ^ 2 := by simp
  have hpaid : ∀ x ∈ xs.map Prod.fst, 0 ≤ x := fun x hx => by
    obtain ⟨y, hy, rfl⟩ := List.mem_map.mp hx
    exact (hxs y hy).1
  have hleft : ∀ x ∈ xs.map Prod.snd, 0 ≤ x := fun x hx => by
    obtain ⟨y, hy, rfl⟩ := List.mem_map.mp hx
    exact (hxs y hy).2
  rw [hzero] at ha hb ⊢
  have hpaidLt := sum_lt_of_quantize hpaid (by positivity) le_rfl ha
  have hleftLt := sum_lt_of_quantize hleft (by positivity) le_rfl hb
  rw [zero_add] at hpaidLt hleftLt
  rw [foldl_addContext fun k => by
    have := sum_take_bounds hpaid k
    rw [zero_add, abs_of_nonneg this.1]
    exact this.2.trans_lt hpaidLt, zero_add] at ha
  rw [foldl_addContext fun k => by
    have := sum_take_bounds hleft k
    rw [zero_add, abs_of_nonneg this.1]
    exact this.2.trans_lt hleftLt, zero_add] at hb
  refine ⟨(quantize_of_int ha).1, (quantize_of_int hb).1, ?_⟩
  rw [foldl_addContext fun k => by
    have hp := sum_take_bounds hpaid k
    have hl := sum_take_bounds hleft k
    rw [← List.map_take] at hp hl ⊢
    rw [zero_add, sum_map_sub, abs_lt]
    constructor <;> omega, zero_add, sum_map_sub]

theorem mapM_filter {α β : Type} {f : α → Option β} {p : α → Bool} {q : β → Bool} {l : List α} {l' : List β} (h : l.mapM f = some l')
    (hpq : ∀ a b, f a = some b → q b = p a) : (l.filter p).mapM f = some (l'.filter q) ∧ ∀ b ∈ l', ∃ a ∈ l, f a = some b := by
  induction l generalizing l' with
  | nil =>
    cases h
    exact ⟨rfl, fun b hb => absurd hb List.not_mem_nil⟩
  | cons a l ih =>
    rw [List.mapM_cons] at h
    obtain ⟨b, hb, h⟩ := Option.bind_eq_some_iff.mp h
    obtain ⟨bs, hbs, h⟩ := Option.bind_eq_some_iff.mp h
    obtain rfl := Option.some.inj h
    obtain ⟨hfilter, hmem⟩ := ih hbs
    refine ⟨?_, List.forall_mem_cons.mpr ⟨⟨a, List.mem_cons_self, hb⟩, fun b hb => ?_⟩⟩
    · cases hp : p a with
      | true =>
        rw [List.filter_cons_of_pos hp, List.filter_cons_of_pos ((hpq a b hb).trans hp), List.mapM_cons, hb, hfilter]
        rfl
      | false => rw [List.filter_cons_of_neg (by simp [hp]), List.filter_cons_of_neg (by simp [hpq a b hb, hp]), hfilter]
    · obtain ⟨a, ha, hab⟩ := hmem b hb
      exact ⟨a, List.mem_cons_of_mem _ ha, hab⟩

end Totals

/-! ### The accounts -/

/-- What is paid is what is consumed and what is left over, in whole cents, and what is left over is reused, wasted or unallocated. -/
def RecipeCosting.Balanced (result : RecipeCosting) : Prop :=
  ∃ purchase consumed leftover reusable nonReusable unallocated : ℤ,
    result.totalPurchaseCost = some ((purchase : ℚ) / 10 ^ 2) ∧ result.totalConsumedCost = some ((consumed : ℚ) / 10 ^ 2) ∧
    result.totalLeftoverValue = some ((leftover : ℚ) / 10 ^ 2) ∧ result.reusableLeftoverValue = some ((reusable : ℚ) / 10 ^ 2) ∧
    result.nonReusableLeftoverValue = some ((nonReusable : ℚ) / 10 ^ 2) ∧
    result.unallocatedLeftoverValue = some ((unallocated : ℚ) / 10 ^ 2) ∧
    purchase = consumed + leftover ∧ leftover = reusable + nonReusable + unallocated

/-- A recipe that is costed in full is balanced, its lines are sound, and its optional ingredients leave all but the lines and their
    names as they would be without them. -/
theorem costRecipe_accounted {py : Runtime} (hround : py.round = roundContext) (u : Alphabet) (catalog : Catalog) (recipe : Recipe)
    (providerCode : String) (storeId : Option Int) (pantryPolicy : String) (now : History.Instant) {result : RecipeCosting}
    (h : costRecipe py u catalog recipe providerCode storeId pantryPolicy now = some result) (hfull : result.fullyCostable = true) :
    result.Balanced ∧ (∀ line ∈ result.lines, line.Sound) ∧
      costRecipe py u catalog { recipe with ingredients := recipe.ingredients.filter (!·.optional) } providerCode storeId pantryPolicy now =
        some { result with lines := result.lines.filter (!·.optional), optionalIngredientsExcluded := [] } := by
  unfold costRecipe at h ⊢
  dsimp only at h ⊢
  split at h
  · cases h
    cases hfull
  · next retailer _ =>
    obtain ⟨lines, hlines, h⟩ := Option.bind_eq_some_iff.mp h
    obtain ⟨hfilter, hmem⟩ := mapM_filter (q := (!·.optional)) hlines fun ri line hline => by
      rw [(costLine_spec hround hline).1]
    have hcents : ∀ line ∈ lines, line.lineCost.isSome = true → ∃ paid consumed left, line.Cents paid consumed left := by
      intro line hline
      obtain ⟨ri, -, hri⟩ := hmem line hline
      exact (costLine_spec hround hri).2.2
    split at h
    · next hpriced =>
      obtain ⟨purchase, hpurchase, h⟩ := Option.bind_eq_some_iff.mp h
      obtain ⟨consumed, hconsumed, h⟩ := Option.bind_eq_some_iff.mp h
      obtain ⟨leftover, hleftover, h⟩ := Option.bind_eq_some_iff.mp h
      obtain ⟨perPurchase, hperPurchase, h⟩ := Option.bind_eq_some_iff.mp h
      obtain ⟨perConsumed, hperConsumed, h⟩ := Option.bind_eq_some_iff.mp h
      obtain rfl := Option.some.inj h
      refine ⟨?_, fun line hline => ?_, ?_⟩
      · obtain ⟨xs, hxs, htp, htc, hts⟩ := tallyOf_totals hround hcents
        rw [htp] at hpurchase
        rw [hts] at hleftover
        obtain ⟨hp, hl, hc⟩ := totals_exact xs hxs hpurchase hleftover
        rw [htc, hc] at hconsumed
        exact ⟨_, _, _, 0, 0, _, congrArg some hp, congrArg some (quantize_of_int hconsumed).1, congrArg some hl, by simp, by simp,
          congrArg some hl, by ring, by ring⟩
      · obtain ⟨ri, -, hri⟩ := hmem line hline
        exact (costLine_spec hround hri).2.1
      · rw [hfilter]
        simp only [Option.bind_eq_bind, Option.bind_some, tallyOf_filter]
        rw [if_pos hpriced, hpurchase]
        simp only [hconsumed, hleftover, hperPurchase, hperConsumed, Option.bind_some]
        rfl
    · cases h
      cases hfull

/-! ### Custard -/

def milkVariant : ProductVariant where
  id := 7
  productId := some 9
  retailerId := 1
  externalProductId := 4
  displayName := "Leche"
  netContentQuantity := some ⟨10000, by decide⟩
  netContentUnit := some "l"

/-- A litre of milk at 2 euros. -/
def milkCatalog : Catalog where
  retailers := [{ id := 1, slug := "mercaejemplo" }]
  ingredientMappings := [{ ingredientId := 5, productId := 9, retailerId := some 1 }]
  variants := [milkVariant]
  prices := { observations := [{ Prices.storeRow 1 .national 10 with stagingOnly := true }] }

def custard (quantity : Amount) : Recipe where
  id := 1
  title := "Natillas"
  servings := 2
  ingredients := [{ ingredientId := 5, canonicalName := "leche", quantity := quantity, unit := "ml" }]

def quarterLitre : Amount := ⟨2500000, by decide⟩

def minusQuarterLitre : Amount := ⟨-2500000, by decide⟩

/-- A quarter of a litre. -/
theorem costRecipe_accounted_custard : ∃ result,
    costRecipe Runtime.decimals .ascii milkCatalog (custard quarterLitre) "demo" none "empty_pantry" 30 = some result ∧
      result.Balanced := by
  obtain ⟨result, hresult⟩ : ∃ result,
      costRecipe Runtime.decimals .ascii milkCatalog (custard quarterLitre) "demo" none "empty_pantry" 30 = some result :=
    Option.isSome_iff_exists.mp (by decide +kernel)
  have hfull : (costRecipe Runtime.decimals .ascii milkCatalog (custard quarterLitre) "demo" none "empty_pantry" 30).all
      (·.fullyCostable) = true := by decide +kernel
  rw [hresult] at hfull
  exact ⟨result, hresult, (costRecipe_accounted rfl .ascii milkCatalog (custard quarterLitre) "demo" none "empty_pantry" 30 hresult hfull).1⟩

/-- A recipe that asks for minus a quarter of a litre is costed in full, and consumes minus 50 cents. -/
theorem not_consumed_nonneg : ¬∀ (u : Alphabet) (catalog : Catalog) (recipe : Recipe) (result : RecipeCosting),
    costRecipe Runtime.decimals u catalog recipe "demo" none "empty_pantry" 30 = some result → result.fullyCostable = true →
      ∀ line ∈ result.lines, ∀ consumed ∈ line.consumedCost, 0 ≤ consumed := by
  intro h
  obtain ⟨result, hresult⟩ : ∃ result,
      costRecipe Runtime.decimals .ascii milkCatalog (custard minusQuarterLitre) "demo" none "empty_pantry" 30 = some result :=
    Option.isSome_iff_exists.mp (by decide +kernel)
  have hfacts : (costRecipe Runtime.decimals .ascii milkCatalog (custard minusQuarterLitre) "demo" none "empty_pantry" 30).all
      (fun result => result.fullyCostable && result.lines.any fun line => line.consumedCost.any (· < 0)) = true := by decide +kernel
  rw [hresult, Option.all_some, Bool.and_eq_true, List.any_eq_true] at hfacts
  obtain ⟨hfull, line, hline, hnegative⟩ := hfacts
  obtain ⟨consumed, hconsumed, hlt⟩ := (Option.any_eq_true _ _).mp hnegative
  exact absurd (h .ascii milkCatalog (custard minusQuarterLitre) result hresult hfull line hline consumed hconsumed) (not_le.mpr (of_decide_eq_true hlt))

end CestaPlan.Costing
