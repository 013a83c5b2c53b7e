import CestaPlan.Engine.Runtime
import CestaPlan.Ingestion.Feed

/-! What a line is charged under a promotion (`services/basket_resolver.py`). -/

namespace CestaPlan.Basket
open Engine
open Ingestion (PromotionType)

structure PromotionRule where
  id : Nat
  priceObservationId : Nat
  type : PromotionType
  requiredQuantity : Option Int := none
  chargedQuantity : Option Int := none
  percentageDiscount : Option ℚ := none
  fixedDiscount : Option ℚ := none
deriving DecidableEq

/-- What the description of an applied promotion is put together from. -/
inductive PromotionDescription where
  | nxm (n m : Int)
  | secondUnit (fraction : ℚ)
  | percentage (fraction : ℚ)
  | fixed (discount : ℚ)
deriving DecidableEq

structure PromotionApplied where
  type : PromotionType
  description : PromotionDescription
  requiredQuantity : Option Int
  chargedQuantity : Option Int
  percentageDiscount : Option ℚ
  fixedDiscount : Option ℚ
deriving DecidableEq

section Charge
variable (py : Runtime)

/-- A value over 1 is taken for a percentage, any other one for a fraction. -/
def discountFraction (pct : ℚ) : ℚ :=
  let frac := if 1 < pct then py.div pct 100 else pct
  if frac < 0 then 0 else if 1 < frac then 1 else frac

/-- A quantity that is given and not 0. -/
def given (quantity : Option Int) : Option Int := quantity.filter (· ≠ 0)

def applied (rule : PromotionRule) (description : PromotionDescription) : PromotionApplied where
  type := rule.type
  description := description
  requiredQuantity := rule.requiredQuantity
  chargedQuantity := rule.chargedQuantity
  percentageDiscount := rule.percentageDiscount
  fixedDiscount := rule.fixedDiscount

def chargeNxm (rule : PromotionRule) (packages : ℕ) (packagePrice base : ℚ) : ℚ × Option PromotionApplied :=
  match given rule.requiredQuantity, given rule.chargedQuantity with
  | some n, some m =>
    let paidUnits := (packages : ℤ).fdiv n * m + (packages : ℤ).fmod n
    (py.mul paidUnits packagePrice, some (applied rule (.nxm n m)))
  | _, _ => (base, none)

def chargeSecondUnit (rule : PromotionRule) (packages : ℕ) (packagePrice base : ℚ) : ℚ × Option PromotionApplied :=
  match rule.percentageDiscount with
  | none => (base, none)
  | some percentage =>
    let n := (given rule.requiredQuantity).getD 2
    let pct := discountFraction py percentage
    let discountedUnits := (packages : ℤ).fdiv n
    let fullUnits := packages - discountedUnits
    (py.add (py.mul fullUnits packagePrice) (py.mul (py.mul discountedUnits packagePrice) (py.sub 1 pct)),
      some (applied rule (.secondUnit pct)))

def chargePercentage (rule : PromotionRule) (packages : ℕ) (base : ℚ) : ℚ × Option PromotionApplied :=
  match rule.percentageDiscount with
  | none => (base, none)
  | some percentage =>
    if rule.requiredQuantity.all (· ≤ (packages : ℤ)) then
      let pct := discountFraction py percentage
      (py.mul base (py.sub 1 pct), some (applied rule (.percentage pct)))
    else (base, none)

def chargeFixed (rule : PromotionRule) (base : ℚ) : ℚ × Option PromotionApplied :=
  match rule.fixedDiscount with
  | none => (base, none)
  | some discount => (max (py.sub base discount) 0, some (applied rule (.fixed discount)))

def applyPromotion (rule : Option PromotionRule) (packages : ℕ) (packagePrice : ℚ) : ℚ × Option PromotionApplied :=
  let base := py.mul packages packagePrice
  match rule with
  | none => (base, none)
  | some rule =>
    if packages = 0 then (base, none)
    else match rule.type with
      | .nxm => chargeNxm py rule packages packagePrice base
      | .pack => chargeNxm py rule packages packagePrice base
      | .secondUnit => chargeSecondUnit py rule packages packagePrice base
      | .percentage => chargePercentage py rule packages base
      | .minQuantity => chargePercentage py rule packages base
      | .fixed => chargeFixed py rule base

end Charge
end CestaPlan.Basket
