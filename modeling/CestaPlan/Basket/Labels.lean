import CestaPlan.Basket.Promotions
import CestaPlan.Ingestion.PromotionLabels
import CestaPlan.Library.DecimalContext

/-! What the label of a promotion says, and what a line is charged under the rule that the parser makes of it.

    The parser writes percentages as the label does, 20 for 20 %, and the charge takes a value up to 1 for a fraction. -/

namespace CestaPlan.Basket
open Engine Numeric
open Ingestion (PromotionInfo PromotionType Shape parsePromotion)

/-- The rule has what the parser read. -/
structure PromotionRule.Holds (rule : PromotionRule) (info : PromotionInfo) : Prop where
  type : rule.type = info.promotionType
  required : rule.requiredQuantity = info.requiredQuantity.map fun n : ℕ => (n : ℤ)
  charged : rule.chargedQuantity = info.chargedQuantity.map fun n : ℕ => (n : ℤ)
  percentage : rule.percentageDiscount = info.percentageDiscount
  fixed : rule.fixedDiscount = info.fixedDiscount

section Statement
variable (py : Runtime)

/-- What a percentage leaves of 1. -/
def saidPart (p : ℚ) : ℚ := py.sub 1 (py.div p 100)

/-- An amount with a percentage off. -/
def percentOff (p amount : ℚ) : ℚ := py.mul amount (saidPart py p)

/-- An amount with a discount off, and never below zero. -/
def amountOff (discount amount : ℚ) : ℚ := max (py.sub amount discount) 0

/-- What the label says of the cost of some packages. -/
def Said (info : PromotionInfo) (packages : ℕ) (price cost : ℚ) : Prop :=
  let base := py.mul packages price
  match info.promotionType with
  | .percentage => ∀ p ∈ info.percentageDiscount, p ≤ 100 → cost = percentOff py p base
  -- One unit in every two.
  | .secondUnit => ∀ p ∈ info.percentageDiscount, p ≤ 100 →
    cost = py.add (py.mul (packages - packages / 2 : ℕ) price) (percentOff py p (py.mul (packages / 2 : ℕ) price))
  | .nxm => ∀ n ∈ info.requiredQuantity, ∀ m ∈ info.chargedQuantity, cost = py.mul (packages / n * m + packages % n : ℕ) price
  | .minQuantity => ∀ n ∈ info.requiredQuantity,
    if packages < n then cost = base
    else match info.percentageDiscount with
      | some p => p ≤ 100 → cost = percentOff py p base
      | none => ∀ d ∈ info.fixedDiscount, cost = amountOff py d base
  | .fixed => ∀ d ∈ info.fixedDiscount, cost = amountOff py d base
  | .pack => True

structure ChargedAsSaid (info : PromotionInfo) (packages : ℕ) (price cost : ℚ) : Prop where
  said : Said py info packages price cost
  nonneg : 0 ≤ cost
  /-- As long as the decimal context holds what so many packages cost. -/
  le_base : (∀ k ≤ packages, py.round (k * price) = k * price) → cost ≤ packages * price

/-- Whatever is bought, the rule charges what the label says. -/
def Faithful (info : PromotionInfo) : Prop :=
  ∀ rule : PromotionRule, rule.Holds info → ∀ (packages : ℕ) (price : ℚ), 0 ≤ price →
    ChargedAsSaid py info packages price (applyPromotion py (some rule) packages price).1

/-- A percentage that is taken for a fraction, unless it is lost either way; units that are all free; or a fixed discount from a
    minimum quantity on. -/
inductive Misread (info : PromotionInfo) : Prop where
  | percentage {p : ℚ} (pct : info.percentageDiscount = some p) (seen : halfUnit < p) (le : p ≤ 1)
  | free (type : info.promotionType = .nxm) (charged : info.chargedQuantity = some 0)
  | fixed {d : ℚ} (type : info.promotionType = .minQuantity) (pct : info.percentageDiscount = none)
      (fixed : info.fixedDiscount = some d) (pos : 0 < d)

end Statement

section Charges
variable {py : Runtime} {info : PromotionInfo} {rule : PromotionRule} {packages : ℕ} {price p : ℚ}

theorem round_zero (hround : py.round = roundContext) : py.round 0 = 0 := by
  rw [hround, roundContext_zero]

theorem round_one (hround : py.round = roundContext) : py.round 1 = 1 := by
  rw [hround]
  exact roundContext_intCast (n := 1) (by norm_num [contextPrec])

theorem round_mono (hround : py.round = roundContext) {x y : ℚ} (h : x ≤ y) : py.round x ≤ py.round y := by
  rw [hround]
  exact roundContext_mono h

theorem round_nonneg (hround : py.round = roundContext) {x : ℚ} (h : 0 ≤ x) : 0 ≤ py.round x :=
  (round_zero hround).symm.trans_le (round_mono hround h)

theorem round_round (hround : py.round = roundContext) (x : ℚ) : py.round (py.round x) = py.round x := by
  rw [hround, roundContext_roundContext]

/-! ### The part that is kept -/

/-- What the charge leaves of an amount. -/
def keptPart (py : Runtime) (p : ℚ) : ℚ := py.sub 1 (discountFraction py p)

theorem discountFraction_of_le_one (hp : 0 ≤ p) (hp1 : p ≤ 1) : discountFraction py p = p := by
  unfold discountFraction
  rw [if_neg (not_lt.mpr hp1)]
  dsimp only
  rw [if_neg (not_lt.mpr hp), if_neg (not_lt.mpr hp1)]

theorem discountFraction_of_one_lt (hround : py.round = roundContext) (hp : 1 < p) (hp100 : p ≤ 100) :
    discountFraction py p = py.div p 100 := by
  have hnonneg : 0 ≤ py.div p 100 := round_nonneg hround (by positivity)
  have hle : py.div p 100 ≤ 1 := by
    rw [← round_one hround]
    exact round_mono hround (by linarith)
  unfold discountFraction
  rw [if_pos hp]
  dsimp only
  rw [if_neg (not_lt.mpr hnonneg), if_neg (not_lt.mpr hle)]

theorem discountFraction_range : 0 ≤ discountFraction py p ∧ discountFraction py p ≤ 1 := by
  unfold discountFraction
  dsimp only
  split_ifs <;> constructor <;> linarith

theorem keptPart_range (hround : py.round = roundContext) : 0 ≤ keptPart py p ∧ keptPart py p ≤ 1 := by
  obtain ⟨h0, h1⟩ := @discountFraction_range py p
  constructor
  · exact round_nonneg hround (by linarith)
  · rw [← round_one hround]
    exact round_mono hround (by linarith)

theorem saidPart_range (hround : py.round = roundContext) (hp : 0 ≤ p) (hp1 : p ≤ 1) : 0 ≤ saidPart py p ∧ saidPart py p ≤ 1 := by
  have h0 : 0 ≤ py.div p 100 := round_nonneg hround (by positivity)
  have h1 : py.div p 100 ≤ 1 := by
    rw [← round_one hround]
    exact round_mono hround (by linarith)
  constructor
  · exact round_nonneg hround (by linarith)
  · rw [← round_one hround]
    exact round_mono hround (by linarith)

theorem saidPart_eq_one (hround : py.round = roundContext) (hp : 0 ≤ p) (hsmall : p ≤ 100 * halfUnit) : saidPart py p = 1 := by
  have hdiv0 : 0 ≤ py.div p 100 := round_nonneg hround (by positivity)
  have hdiv : py.div p 100 ≤ halfUnit := by
    have hunit : py.round halfUnit = halfUnit := by
      rw [hround, halfUnit]
      exact roundContext_of_int (n := 5) (by norm_num [contextPrec])
    rw [← hunit]
    exact round_mono hround (by linarith)
  rw [saidPart, Runtime.sub, hround]
  exact (roundContext_one_sub_eq_one_iff hdiv0 (hdiv.trans (by norm_num [halfUnit]))).mpr hdiv

theorem keptPart_eq (hround : py.round = roundContext) (hp : 0 ≤ p) (hp100 : p ≤ 100) (h : 1 < p ∨ p ≤ halfUnit) :
    keptPart py p = saidPart py p := by
  rcases h with h | h
  · rw [keptPart, discountFraction_of_one_lt hround h hp100, saidPart]
  · have hp1 : p ≤ 1 := h.trans (by norm_num [halfUnit])
    rw [saidPart_eq_one hround hp (by linarith), keptPart, discountFraction_of_le_one hp hp1, Runtime.sub, hround]
    exact (roundContext_one_sub_eq_one_iff hp hp1).mpr h

/-! ### Bounds -/

theorem mul_kept_nonneg (hround : py.round = roundContext) {amount f : ℚ} (ha : 0 ≤ amount) (hf : 0 ≤ f) : 0 ≤ py.mul amount f :=
  round_nonneg hround (mul_nonneg ha hf)

theorem mul_kept_le (hround : py.round = roundContext) {amount f : ℚ} (ha : 0 ≤ amount) (hf : f ≤ 1)
    (hheld : py.round amount = amount) : py.mul amount f ≤ amount :=
  calc py.mul amount f ≤ py.round amount := round_mono hround (mul_le_of_le_one_right ha hf)
    _ = amount := hheld

/-! ### What is charged, by the type of the rule -/

theorem mul_zero_left (hround : py.round = roundContext) (x : ℚ) : py.mul 0 x = 0 := by
  rw [Runtime.mul, zero_mul, round_zero hround]

theorem charged_none (hround : py.round = roundContext) (hshape : Shape info) :
    ChargedAsSaid py info 0 price (applyPromotion py (some rule) 0 price).1 := by
  have hbase : py.mul (0 : ℕ) price = 0 := by rw [Nat.cast_zero, mul_zero_left hround]
  have hcost : (applyPromotion py (some rule) 0 price).1 = 0 := hbase
  have hoff : ∀ p, percentOff py p 0 = 0 := fun p => mul_zero_left hround _
  have hsum : py.add 0 0 = 0 := by rw [Runtime.add, add_zero, round_zero hround]
  have hamount : ∀ d : ℚ, 0 ≤ d → amountOff py d 0 = 0 := by
    intro d hd
    have := round_mono hround (show 0 - d ≤ 0 by linarith)
    rw [round_zero hround] at this
    exact max_eq_right this
  rw [hcost]
  refine ⟨?_, le_rfl, fun _ => by simp⟩
  unfold Said
  rw [hbase]
  cases hshape with
  | nxm type => simp [type, mul_zero_left hround]
  | secondUnit type => simp [type, hoff, hsum]
  | pack type => simp [type]
  | minPercentage type required pct nonneg => simp [type, pct, hoff]
  | minFixed type required pct fixed nonneg => simp [type, pct, fixed, hamount _ nonneg]
  | fixed type pct fixed nonneg => simp [type, fixed, hamount _ nonneg]
  | percentage type required pct nonneg => simp [type, hoff]

theorem base_nonneg (hround : py.round = roundContext) (hprice : 0 ≤ price) : 0 ≤ py.mul packages price :=
  round_nonneg hround (by positivity)

theorem charged_units (hround : py.round = roundContext) (hprice : 0 ≤ price) {k : ℕ} (hk : k ≤ packages) :
    0 ≤ py.mul k price ∧ ((∀ k ≤ packages, py.round (k * price) = k * price) → py.mul k price ≤ packages * price) :=
  ⟨base_nonneg hround hprice, fun hheld => (hheld k hk).trans_le (by gcongr)⟩

theorem charged_percentOff (hround : py.round = roundContext) (hprice : 0 ≤ price) :
    0 ≤ py.mul (py.mul packages price) (keptPart py p) ∧ ((∀ k ≤ packages, py.round (k * price) = k * price) →
      py.mul (py.mul packages price) (keptPart py p) ≤ packages * price) := by
  obtain ⟨h0, h1⟩ := @keptPart_range py p hround
  refine ⟨mul_kept_nonneg hround (base_nonneg hround hprice) h0, fun hheld => ?_⟩
  have hbase : py.mul packages price = packages * price := hheld packages le_rfl
  rw [hbase]
  exact mul_kept_le hround (by positivity) h1 (hheld packages le_rfl)

theorem charged_amountOff (hround : py.round = roundContext) (hprice : 0 ≤ price) {d : ℚ} (hd : 0 ≤ d) :
    0 ≤ amountOff py d (py.mul packages price) ∧ ((∀ k ≤ packages, py.round (k * price) = k * price) →
      amountOff py d (py.mul packages price) ≤ packages * price) := by
  refine ⟨le_max_right _ _, fun hheld => ?_⟩
  have hbase : py.mul packages price = packages * price := hheld packages le_rfl
  rw [hbase]
  refine max_le ?_ (by positivity)
  calc py.sub (packages * price) d ≤ py.round (packages * price) := round_mono hround (by linarith)
    _ = packages * price := hheld packages le_rfl

theorem charged_secondUnit (hround : py.round = roundContext) (hprice : 0 ≤ price) {k : ℕ} (hk : k ≤ packages) :
    0 ≤ py.add (py.mul (packages - k : ℕ) price) (py.mul (py.mul k price) (keptPart py p)) ∧
      ((∀ k ≤ packages, py.round (k * price) = k * price) →
        py.add (py.mul (packages - k : ℕ) price) (py.mul (py.mul k price) (keptPart py p)) ≤ packages * price) := by
  obtain ⟨h0, h1⟩ := @keptPart_range py p hround
  refine ⟨round_nonneg hround (add_nonneg (base_nonneg hround hprice) (mul_kept_nonneg hround (base_nonneg hround hprice) h0)),
    fun hheld => ?_⟩
  have hfull : py.mul (packages - k : ℕ) price = (packages - k : ℕ) * price := hheld _ (Nat.sub_le _ _)
  have hreduced : py.mul k price = k * price := hheld k hk
  have hkept : py.mul (k * price) (keptPart py p) ≤ k * price := mul_kept_le hround (by positivity) h1 (hheld k hk)
  rw [hfull, hreduced]
  calc py.add ((packages - k : ℕ) * price) (py.mul (k * price) (keptPart py p)) ≤ py.round (packages * price) := by
        refine round_mono hround ?_
        calc ((packages - k : ℕ) : ℚ) * price + py.mul (k * price) (keptPart py p)
            ≤ ((packages - k : ℕ) : ℚ) * price + k * price := add_le_add_right hkept _
          _ = packages * price := by rw [Nat.cast_sub hk]; ring
    _ = packages * price := hheld packages le_rfl

/-! ### What is charged, by the type of the rule -/

section Costs
variable (hrule : rule.Holds info) (hpackages : packages ≠ 0)
include hrule hpackages

theorem cost_of_percentage (type : info.promotionType = .percentage) (required : info.requiredQuantity = none)
    (pct : info.percentageDiscount = some p) :
    (applyPromotion py (some rule) packages price).1 = py.mul (py.mul packages price) (keptPart py p) := by
  simp [applyPromotion, hpackages, hrule.type, type, chargePercentage, hrule.percentage, pct, hrule.required, required, keptPart]

theorem cost_of_secondUnit (type : info.promotionType = .secondUnit) (required : info.requiredQuantity = some 2)
    (pct : info.percentageDiscount = some p) : (applyPromotion py (some rule) packages price).1 =
      py.add (py.mul (packages - packages / 2 : ℕ) price) (py.mul (py.mul (packages / 2 : ℕ) price) (keptPart py p)) := by
  have hfull : (((packages : ℤ) - (packages : ℤ).fdiv 2 : ℤ) : ℚ) = (packages - packages / 2 : ℕ) := by
    rw [Int.fdiv_eq_ediv_of_nonneg _ (by decide), Nat.cast_sub (Nat.div_le_self _ _)]
    push_cast
    rfl
  have hreduced : (((packages : ℤ).fdiv 2 : ℤ) : ℚ) = (packages / 2 : ℕ) := by
    rw [Int.fdiv_eq_ediv_of_nonneg _ (by decide)]
    rfl
  simp only [applyPromotion, if_neg hpackages, hrule.type, type, chargeSecondUnit, hrule.percentage, pct, hrule.required, required]
  rw [← hfull, ← hreduced]
  rfl

theorem cost_of_nxm {n m : ℕ} (type : info.promotionType = .nxm) (required : info.requiredQuantity = some n)
    (charged : info.chargedQuantity = some m) (hn : n ≠ 0) (hm : m ≠ 0) :
    (applyPromotion py (some rule) packages price).1 = py.mul (packages / n * m + packages % n : ℕ) price := by
  have hunits : (((packages : ℤ).fdiv n * m + (packages : ℤ).fmod n : ℤ) : ℚ) = (packages / n * m + packages % n : ℕ) := by
    rw [Int.fdiv_eq_ediv_of_nonneg _ (Int.natCast_nonneg n), Int.fmod_eq_emod_of_nonneg _ (Int.natCast_nonneg n)]
    push_cast
    rfl
  have hgiven : ∀ k : ℕ, k ≠ 0 → given (some (k : ℤ)) = some (k : ℤ) := by
    intro k hk
    simp [given, hk]
  simp only [applyPromotion, if_neg hpackages, hrule.type, type, chargeNxm, hrule.required, required, hrule.charged, charged]
  rw [← hunits, Option.map_some, Option.map_some, hgiven n hn, hgiven m hm]

theorem cost_of_not_given (type : info.promotionType = .nxm ∨ info.promotionType = .pack)
    (charged : given (info.chargedQuantity.map fun n : ℕ => (n : ℤ)) = none) :
    (applyPromotion py (some rule) packages price).1 = py.mul packages price := by
  have hnone : (chargeNxm py rule packages price (py.mul packages price)).1 = py.mul packages price := by
    unfold chargeNxm
    rw [hrule.charged, charged]
    cases given rule.requiredQuantity <;> rfl
  rcases type with type | type <;> simp only [applyPromotion, if_neg hpackages, hrule.type, type, hnone]

theorem cost_of_minPercentage {n : ℕ} (type : info.promotionType = .minQuantity) (required : info.requiredQuantity = some n)
    (pct : info.percentageDiscount = some p) : (applyPromotion py (some rule) packages price).1 =
      if packages < n then py.mul packages price else py.mul (py.mul packages price) (keptPart py p) := by
  simp only [applyPromotion, if_neg hpackages, hrule.type, type, chargePercentage, hrule.percentage, pct, hrule.required, required]
  by_cases hn : packages < n
  · simp [hn, not_le.mpr hn]
  · simp [hn, not_lt.mp hn, keptPart]

/-- Nothing is taken off for a fixed discount, from whatever quantity on. -/
theorem cost_of_minFixed (type : info.promotionType = .minQuantity) (pct : info.percentageDiscount = none) :
    (applyPromotion py (some rule) packages price).1 = py.mul packages price := by
  simp [applyPromotion, hpackages, hrule.type, type, chargePercentage, hrule.percentage, pct]

theorem cost_of_fixed {d : ℚ} (type : info.promotionType = .fixed) (fixed : info.fixedDiscount = some d) :
    (applyPromotion py (some rule) packages price).1 = amountOff py d (py.mul packages price) := by
  simp [applyPromotion, hpackages, hrule.type, type, chargeFixed, hrule.fixed, fixed, amountOff]

end Costs

/-! ### Rules that are not misread -/

section Faithful
variable (hround : py.round = roundContext) (hrule : rule.Holds info) (hprice : 0 ≤ price) (hpackages : packages ≠ 0)
include hround hrule hprice hpackages

theorem charged_of_percentage (type : info.promotionType = .percentage) (required : info.requiredQuantity = none)
    (pct : info.percentageDiscount = some p) (hkept : p ≤ 100 → keptPart py p = saidPart py p) :
    ChargedAsSaid py info packages price (applyPromotion py (some rule) packages price).1 := by
  rw [cost_of_percentage hrule hpackages type required pct]
  refine ⟨?_, (charged_percentOff hround hprice).1, (charged_percentOff hround hprice).2⟩
  simp only [Said, type, pct, Option.mem_some_iff]
  rintro _ rfl hp
  rw [hkept hp, percentOff]

theorem charged_of_secondUnit (type : info.promotionType = .secondUnit) (required : info.requiredQuantity = some 2)
    (pct : info.percentageDiscount = some p) (hkept : p ≤ 100 → keptPart py p = saidPart py p) :
    ChargedAsSaid py info packages price (applyPromotion py (some rule) packages price).1 := by
  have hbounds := @charged_secondUnit py packages price p hround hprice (packages / 2) (Nat.div_le_self _ _)
  rw [cost_of_secondUnit hrule hpackages type required pct]
  refine ⟨?_, hbounds.1, hbounds.2⟩
  simp only [Said, type, pct, Option.mem_some_iff]
  rintro _ rfl hp
  rw [hkept hp, percentOff]

theorem charged_of_nxm {n m : ℕ} (type : info.promotionType = .nxm) (required : info.requiredQuantity = some n)
    (charged : info.chargedQuantity = some m) (hless : m < n) (hm : m ≠ 0) :
    ChargedAsSaid py info packages price (applyPromotion py (some rule) packages price).1 := by
  have hpaid : packages / n * m + packages % n ≤ packages := by
    calc packages / n * m + packages % n ≤ packages / n * n + packages % n :=
          Nat.add_le_add_right (Nat.mul_le_mul_left _ hless.le) _
      _ = packages := Nat.div_add_mod' packages n
  rw [cost_of_nxm hrule hpackages type required charged (by omega) hm]
  refine ⟨?_, (charged_units hround hprice hpaid).1, (charged_units hround hprice hpaid).2⟩
  simp only [Said, type, required, charged, Option.mem_some_iff]
  rintro _ rfl _ rfl
  rfl

theorem charged_of_pack (type : info.promotionType = .pack) (charged : info.chargedQuantity = none) :
    ChargedAsSaid py info packages price (applyPromotion py (some rule) packages price).1 := by
  rw [cost_of_not_given hrule hpackages (.inr type) (by rw [charged]; rfl)]
  exact ⟨by simp [Said, type], (charged_units hround hprice le_rfl).1, (charged_units hround hprice le_rfl).2⟩

theorem charged_of_minPercentage {n : ℕ} (type : info.promotionType = .minQuantity) (required : info.requiredQuantity = some n)
    (pct : info.percentageDiscount = some p) (hkept : p ≤ 100 → keptPart py p = saidPart py p) :
    ChargedAsSaid py info packages price (applyPromotion py (some rule) packages price).1 := by
  rw [cost_of_minPercentage hrule hpackages type required pct]
  by_cases hn : packages < n
  · rw [if_pos hn]
    refine ⟨?_, (charged_units hround hprice le_rfl).1, (charged_units hround hprice le_rfl).2⟩
    simp only [Said, type, required, Option.mem_some_iff]
    rintro _ rfl
    rw [if_pos hn]
    trivial
  · rw [if_neg hn]
    refine ⟨?_, (charged_percentOff hround hprice).1, (charged_percentOff hround hprice).2⟩
    simp only [Said, type, required, pct, Option.mem_some_iff]
    rintro _ rfl
    rw [if_neg hn]
    intro hp
    rw [hkept hp, percentOff]

theorem charged_of_minFixed {n : ℕ} {d : ℚ} (type : info.promotionType = .minQuantity)
    (required : info.requiredQuantity = some n) (pct : info.percentageDiscount = none) (fixed : info.fixedDiscount = some d)
    (hd : d = 0) : ChargedAsSaid py info packages price (applyPromotion py (some rule) packages price).1 := by
  rw [cost_of_minFixed hrule hpackages type pct]
  refine ⟨?_, (charged_units hround hprice le_rfl).1, (charged_units hround hprice le_rfl).2⟩
  simp only [Said, type, required, pct, fixed, Option.mem_some_iff]
  rintro _ rfl
  split
  · trivial
  · rintro _ rfl
    rw [hd, amountOff, Runtime.sub, sub_zero, Runtime.mul, round_round hround, max_eq_left (round_nonneg hround (by positivity))]

theorem charged_of_fixed {d : ℚ} (type : info.promotionType = .fixed) (fixed : info.fixedDiscount = some d) (hd : 0 ≤ d) :
    ChargedAsSaid py info packages price (applyPromotion py (some rule) packages price).1 := by
  rw [cost_of_fixed hrule hpackages type fixed]
  refine ⟨?_, (charged_amountOff hround hprice hd).1, (charged_amountOff hround hprice hd).2⟩
  simp only [Said, type, fixed, Option.mem_some_iff]
  rintro _ rfl
  rfl

end Faithful

theorem faithful_of_not_misread (hround : py.round = roundContext) (hshape : Shape info) (h : ¬Misread info) :
    Faithful py info := by
  intro rule hrule packages price hprice
  rcases eq_or_ne packages 0 with rfl | hpackages
  · exact charged_none hround hshape
  have hkept : ∀ p, info.percentageDiscount = some p → 0 ≤ p → p ≤ 100 → keptPart py p = saidPart py p := by
    intro p pct hp hp100
    refine keptPart_eq hround hp hp100 ?_
    by_contra hseen
    rw [not_or, not_lt, not_le] at hseen
    exact h (.percentage pct hseen.2 hseen.1)
  cases hshape with
  | nxm type required charged pct less =>
    exact charged_of_nxm hround hrule hprice hpackages type required charged less fun hm => h (.free type (hm ▸ charged))
  | secondUnit type required pct nonneg =>
    exact charged_of_secondUnit hround hrule hprice hpackages type required pct (hkept _ pct nonneg)
  | pack type required charged pct => exact charged_of_pack hround hrule hprice hpackages type charged
  | minPercentage type required pct nonneg =>
    exact charged_of_minPercentage hround hrule hprice hpackages type required pct (hkept _ pct nonneg)
  | minFixed type required pct fixed nonneg =>
    refine charged_of_minFixed hround hrule hprice hpackages type required pct fixed ?_
    exact le_antisymm (not_lt.mp fun hd => h (.fixed type pct fixed hd)) nonneg
  | fixed type pct fixed nonneg => exact charged_of_fixed hround hrule hprice hpackages type fixed nonneg
  | percentage type required pct nonneg =>
    exact charged_of_percentage hround hrule hprice hpackages type required pct (hkept _ pct nonneg)

/-! ### Rules that are misread -/

theorem add_kept_ne (hround : py.round = roundContext) (hp : 100 * halfUnit < p) (hp1 : p ≤ 1) :
    py.add 1 (keptPart py p) ≠ py.add 1 (saidPart py p) := by
  have hp0 : 0 < p := lt_trans (by norm_num [halfUnit]) hp
  obtain ⟨hkept0, hkept1⟩ := @keptPart_range py p hround
  obtain ⟨hsaid0, hsaid1⟩ := saidPart_range hround hp0.le hp1
  have hkept : |keptPart py p - (1 - p)| ≤ 1 / 10 ^ 27 := by
    have herr := abs_roundContext_sub_le (1 - p)
    rw [← hround] at herr
    rw [keptPart, discountFraction_of_le_one hp0.le hp1]
    refine herr.trans ?_
    rw [abs_of_nonneg (by linarith), contextPrec]
    exact div_le_div_of_nonneg_right (by linarith) (by positivity)
  have hdiv : |py.div p 100 - p / 100| ≤ 1 / 10 ^ 29 := by
    have herr := abs_roundContext_sub_le (p / 100)
    rw [← hround] at herr
    refine herr.trans ?_
    rw [abs_of_nonneg (by positivity), contextPrec]
    norm_num
    linarith
  have hsaid : |saidPart py p - (1 - py.div p 100)| ≤ 1 / 10 ^ 27 := by
    have hdiv0 : 0 ≤ py.div p 100 := round_nonneg hround (by positivity)
    have hdiv1 : py.div p 100 ≤ 1 := by
      rw [← round_one hround]
      exact round_mono hround (by linarith)
    have herr := abs_roundContext_sub_le (1 - py.div p 100)
    rw [← hround] at herr
    refine herr.trans ?_
    rw [abs_of_nonneg (by linarith), contextPrec]
    exact div_le_div_of_nonneg_right (by linarith) (by positivity)
  have hsum : ∀ x : ℚ, 0 ≤ x → x ≤ 1 → |py.add 1 x - (1 + x)| ≤ 1 / 10 ^ 27 / 2 := by
    intro x h0 h1
    have herr := @abs_roundContext_sub_le_of_log (1 + x) 0 (by norm_num; linarith) (by norm_num; linarith)
    rw [← hround] at herr
    refine herr.trans (by norm_num [contextPrec])
  intro heq
  have hleft := hsum _ hkept0 hkept1
  have hright := hsum _ hsaid0 hsaid1
  rw [heq] at hleft
  rw [abs_le] at hkept hdiv hsaid hleft hright
  norm_num [halfUnit] at hp hkept hdiv hsaid hleft hright
  linarith [hkept.1, hkept.2, hdiv.1, hdiv.2, hsaid.1, hsaid.2, hleft.1, hleft.2, hright.1, hright.2]

theorem keptPart_lt_one (hround : py.round = roundContext) (hp : halfUnit < p) (hp1 : p ≤ 1) : keptPart py p < 1 := by
  have hp0 : 0 ≤ p := le_trans (by norm_num [halfUnit]) hp.le
  refine lt_of_le_of_ne (keptPart_range hround).2 fun h => ?_
  rw [keptPart, discountFraction_of_le_one hp0 hp1, Runtime.sub, hround, roundContext_one_sub_eq_one_iff hp0 hp1] at h
  exact absurd h (not_le.mpr hp)

theorem keptPart_le (hround : py.round = roundContext) (hp : halfUnit < p) (hp1 : p ≤ 1) : keptPart py p ≤ 1 - 1 / 10 ^ 28 := by
  have h := keptPart_lt_one hround hp hp1
  rw [keptPart, Runtime.sub, hround] at h ⊢
  exact roundContext_le_of_lt_one h

theorem keptPart_ne (hround : py.round = roundContext) (hp : halfUnit < p) (hp1 : p ≤ 1) : keptPart py p ≠ saidPart py p := by
  have hp0 : 0 ≤ p := le_trans (by norm_num [halfUnit]) hp.le
  rcases le_or_gt p (100 * halfUnit) with hsmall | hlarge
  · rw [saidPart_eq_one hround hp0 hsmall]
    exact (keptPart_lt_one hround hp hp1).ne
  · exact fun h => add_kept_ne hround hlarge hp1 (by rw [h])

/-- A price that shows the last digit: three packages of it are a tie that is rounded up. -/
def tiePrice : ℚ := 5000000000000000000000000005 / 10 ^ 27

theorem add_tie_ne (hround : py.round = roundContext) {f : ℚ} (hf : f ≤ 1 - 1 / 10 ^ 28) :
    py.add (py.mul 2 tiePrice) (py.mul (py.mul 1 tiePrice) f) ≠ py.add (py.mul 2 tiePrice) (py.mul (py.mul 1 tiePrice) 1) := by
  have htwo : roundContext (2 * tiePrice) = 2 * tiePrice := by decide +kernel
  have hone : roundContext (1 * tiePrice) = tiePrice := by decide +kernel
  have hkept : roundContext (tiePrice * f) ≤ tiePrice - 1 / 10 ^ 27 :=
    calc roundContext (tiePrice * f) ≤ roundContext (tiePrice * (1 - 1 / 10 ^ 28)) :=
          roundContext_mono (mul_le_mul_of_nonneg_left hf (by norm_num [tiePrice]))
      _ = tiePrice - 1 / 10 ^ 27 := by decide +kernel
  refine ne_of_lt ?_
  unfold Runtime.add Runtime.mul
  rw [hround, htwo, hone]
  calc roundContext (2 * tiePrice + roundContext (tiePrice * f)) ≤ roundContext (2 * tiePrice + (tiePrice - 1 / 10 ^ 27)) :=
        roundContext_mono (by linarith)
    _ < roundContext (2 * tiePrice + roundContext (tiePrice * 1)) := by decide +kernel

/-- The rule with what the parser read. -/
def ruleOf (info : PromotionInfo) : PromotionRule where
  id := 0
  priceObservationId := 0
  type := info.promotionType
  requiredQuantity := info.requiredQuantity.map fun n : ℕ => (n : ℤ)
  chargedQuantity := info.chargedQuantity.map fun n : ℕ => (n : ℤ)
  percentageDiscount := info.percentageDiscount
  fixedDiscount := info.fixedDiscount

theorem ruleOf_holds (info : PromotionInfo) : (ruleOf info).Holds info := ⟨rfl, rfl, rfl, rfl, rfl⟩

theorem mul_one_one (hround : py.round = roundContext) : py.mul 1 1 = 1 := by
  rw [Runtime.mul, one_mul, round_one hround]

theorem mul_one_kept (hround : py.round = roundContext) : py.mul 1 (keptPart py p) = keptPart py p := by
  rw [Runtime.mul, one_mul, keptPart, Runtime.sub, round_round hround]

theorem mul_one_said (hround : py.round = roundContext) : py.mul 1 (saidPart py p) = saidPart py p := by
  rw [Runtime.mul, one_mul, saidPart, Runtime.sub, round_round hround]

section Unfaithful
variable (hround : py.round = roundContext) (hsaid : ∀ packages price, 0 ≤ price → packages ≠ 0 →
  Said py info packages price (applyPromotion py (some (ruleOf info)) packages price).1)
include hround hsaid

theorem not_said_percentage (type : info.promotionType = .percentage) (required : info.requiredQuantity = none)
    (pct : info.percentageDiscount = some p) (hp : halfUnit < p) (hp1 : p ≤ 1) : False := by
  have h := hsaid 1 1 zero_le_one one_ne_zero
  rw [cost_of_percentage (ruleOf_holds info) one_ne_zero type required pct, Nat.cast_one, mul_one_one hround,
    mul_one_kept hround] at h
  simp only [Said, type, pct, Option.mem_some_iff, Nat.cast_one, mul_one_one hround, percentOff, mul_one_said hround] at h
  exact keptPart_ne hround hp hp1 (h p rfl (by linarith))

theorem not_said_secondUnit (type : info.promotionType = .secondUnit) (required : info.requiredQuantity = some 2)
    (pct : info.percentageDiscount = some p) (hp : halfUnit < p) (hp1 : p ≤ 1) : False := by
  have hp0 : 0 ≤ p := le_trans (by norm_num [halfUnit]) hp.le
  rcases le_or_gt p (100 * halfUnit) with hsmall | hlarge
  · have h := hsaid 3 tiePrice (by norm_num [tiePrice]) three_ne_zero
    rw [cost_of_secondUnit (ruleOf_holds info) three_ne_zero type required pct] at h
    simp only [Said, type, pct, Option.mem_some_iff] at h
    have h := h p rfl (by linarith)
    rw [percentOff, saidPart_eq_one hround hp0 hsmall] at h
    exact add_tie_ne hround (keptPart_le hround hp hp1) (by exact_mod_cast h)
  · have h := hsaid 2 1 zero_le_one two_ne_zero
    rw [cost_of_secondUnit (ruleOf_holds info) two_ne_zero type required pct] at h
    simp only [Said, type, pct, Option.mem_some_iff] at h
    have h := h p rfl (by linarith)
    simp only [Nat.reduceDiv, Nat.reduceSub, Nat.cast_one, mul_one_one hround, percentOff, mul_one_kept hround, mul_one_said hround] at h
    exact add_kept_ne hround hlarge hp1 h

theorem not_said_minPercentage {n : ℕ} (type : info.promotionType = .minQuantity) (required : info.requiredQuantity = some n)
    (pct : info.percentageDiscount = some p) (hp : halfUnit < p) (hp1 : p ≤ 1) : False := by
  have hpackages : (10 : ℕ) ^ n ≠ 0 := by positivity
  have hmin : ¬10 ^ n < n := not_lt.mpr (Nat.lt_pow_self (by norm_num)).le
  have hbase : py.mul ((10 ^ n : ℕ) : ℚ) (1 / 10 ^ n) = 1 := by
    rw [Runtime.mul, Nat.cast_pow, Nat.cast_ofNat, mul_one_div, div_self (by positivity), round_one hround]
  have h := hsaid (10 ^ n) (1 / 10 ^ n) (by positivity) hpackages
  rw [cost_of_minPercentage (ruleOf_holds info) hpackages type required pct, if_neg hmin, hbase, mul_one_kept hround] at h
  simp only [Said, type, required, pct, Option.mem_some_iff, hbase, percentOff, mul_one_said hround] at h
  have h := h n rfl
  rw [if_neg hmin] at h
  exact keptPart_ne hround hp hp1 (h (by linarith))

theorem not_said_free {n : ℕ} (type : info.promotionType = .nxm) (required : info.requiredQuantity = some n)
    (charged : info.chargedQuantity = some 0) (hn : n ≠ 0) : False := by
  have h := hsaid n 1 zero_le_one hn
  rw [cost_of_not_given (ruleOf_holds info) hn (.inl type) (by rw [charged]; rfl)] at h
  simp only [Said, type, required, charged, Option.mem_some_iff] at h
  have h := h n rfl 0 rfl
  rw [Nat.mul_zero, Nat.mod_self, Nat.cast_zero, mul_zero_left hround, Runtime.mul, mul_one, hround] at h
  exact (roundContext_pos (by positivity : (0 : ℚ) < n)).ne' h

theorem not_said_minFixed {n : ℕ} {d : ℚ} (type : info.promotionType = .minQuantity) (required : info.requiredQuantity = some n)
    (pct : info.percentageDiscount = none) (fixed : info.fixedDiscount = some d) (hd : 0 < d) : False := by
  have hpackages : (10 : ℕ) ^ n ≠ 0 := by positivity
  have hmin : ¬10 ^ n < n := not_lt.mpr (Nat.lt_pow_self (by norm_num)).le
  have hpos : (0 : ℚ) < 10 ^ Int.log 10 d := zpow_pos (by norm_num) _
  have hle : (10 : ℚ) ^ Int.log 10 d ≤ d := by exact_mod_cast Int.zpow_log_le_self (b := 10) (by norm_num) hd
  have hbase : py.mul ((10 ^ n : ℕ) : ℚ) (10 ^ Int.log 10 d / 10 ^ n) = 10 ^ Int.log 10 d := by
    rw [Runtime.mul, Nat.cast_pow, Nat.cast_ofNat, mul_div_cancel₀ _ (by positivity), hround, roundContext_pow]
  have hnothing : amountOff py d (10 ^ Int.log 10 d) = 0 := by
    have := round_mono hround (sub_nonpos.mpr hle)
    rw [round_zero hround] at this
    exact max_eq_right this
  have h := hsaid (10 ^ n) (10 ^ Int.log 10 d / 10 ^ n) (by positivity) hpackages
  rw [cost_of_minFixed (ruleOf_holds info) hpackages type pct, hbase] at h
  simp only [Said, type, required, pct, fixed, Option.mem_some_iff, hbase] at h
  have h := h n rfl
  rw [if_neg hmin] at h
  exact hpos.ne' ((h d rfl).trans hnothing)

end Unfaithful

theorem not_faithful_of_misread (hround : py.round = roundContext) (hshape : Shape info) (h : Misread info) :
    ¬Faithful py info := by
  intro hfaithful
  have hsaid : ∀ packages price, 0 ≤ price → packages ≠ 0 →
      Said py info packages price (applyPromotion py (some (ruleOf info)) packages price).1 :=
    fun packages price hprice _ => (hfaithful (ruleOf info) (ruleOf_holds info) packages price hprice).said
  cases h with
  | percentage pct seen le =>
    cases hshape
    case secondUnit type required _ _ => exact not_said_secondUnit hround hsaid type required pct seen le
    case minPercentage type required _ _ => exact not_said_minPercentage hround hsaid type required pct seen le
    case percentage type required _ _ => exact not_said_percentage hround hsaid type required pct seen le
    all_goals simp_all
  | free type charged =>
    cases hshape
    case nxm _ required _ _ less => exact not_said_free hround hsaid type required charged (by omega)
    all_goals simp_all
  | fixed type pct fixed pos =>
    cases hshape
    case minFixed _ required _ _ _ => exact not_said_minFixed hround hsaid type required pct fixed pos
    all_goals simp_all

end Charges

section Theorem
variable {py : Runtime} {u : Regex.Alphabet} {now : Calendar.Instant} {rawText : Option String} {info : PromotionInfo}

/-- A label is charged as it says exactly when its numbers are not misread. -/
theorem faithful_iff (hround : py.round = roundContext) (h : parsePromotion u now rawText = some (some info)) :
    Faithful py info ↔ ¬Misread info :=
  ⟨fun hfaithful hmisread => not_faithful_of_misread hround (Ingestion.shape_of_parse h) hmisread hfaithful,
    faithful_of_not_misread hround (Ingestion.shape_of_parse h)⟩

end Theorem

/-- Three for two is charged as it says. -/
theorem faithful_threeForTwo : ∃ info, parsePromotion .ascii 0 (some "Oferta 3x2") = some (some info) ∧
    Faithful Runtime.decimals info := by
  have hlabel : (parsePromotion .ascii 0 (some "Oferta 3x2")).any (·.any fun info => info.promotionType = .nxm ∧
      info.percentageDiscount = none ∧ info.chargedQuantity = some 2) = true := by decide +kernel
  obtain ⟨parsed, hparsed, hinfo⟩ := (Option.any_eq_true _ _).mp hlabel
  obtain ⟨info, rfl, hinfo⟩ := (Option.any_eq_true _ _).mp hinfo
  obtain ⟨type, pct, charged⟩ := of_decide_eq_true hinfo
  refine ⟨info, hparsed, (faithful_iff rfl hparsed).mpr ?_⟩
  rintro (⟨pct', -, -⟩ | ⟨-, charged'⟩ | ⟨type', -, -, -⟩)
  · cases pct.symm.trans pct'
  · cases charged.symm.trans charged'
  · cases type.symm.trans type'

/-- One per cent off, and nothing is left to pay. -/
theorem not_faithful_onePercent : ∃ info, parsePromotion .ascii 0 (some "1 % dto.") = some (some info) ∧
    info.percentageDiscount = some 1 ∧ (applyPromotion Runtime.decimals (some (ruleOf info)) 3 2).1 = 0 ∧
    ¬Faithful Runtime.decimals info := by
  have hlabel : (parsePromotion .ascii 0 (some "1 % dto.")).any (·.any fun info => info.promotionType = .percentage ∧
      info.percentageDiscount = some 1 ∧ (applyPromotion Runtime.decimals (some (ruleOf info)) 3 2).1 = 0) = true := by
    decide +kernel
  obtain ⟨parsed, hparsed, hinfo⟩ := (Option.any_eq_true _ _).mp hlabel
  obtain ⟨info, rfl, hinfo⟩ := (Option.any_eq_true _ _).mp hinfo
  obtain ⟨type, pct, hcost⟩ := of_decide_eq_true hinfo
  refine ⟨info, hparsed, pct, hcost, fun h => ?_⟩
  have hsaid := (h (ruleOf info) (ruleOf_holds info) 3 2 (by norm_num)).said
  rw [hcost] at hsaid
  simp only [Said, type, pct, Option.mem_some_iff] at hsaid
  exact absurd (hsaid 1 rfl (by norm_num)) (by decide +kernel)

end CestaPlan.Basket
