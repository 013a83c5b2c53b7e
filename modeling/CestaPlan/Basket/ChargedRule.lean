import CestaPlan.Basket.Resolver

/-! The promotion that a line is charged with. The price is that of one observation, and the rule is looked up again by what the
    price shows of it. -/

namespace CestaPlan.Basket
open Engine History Prices Selection

section Definitions
variable (ilike : String → String → Bool) (th : Thresholds) (shop : Shop) (req : BasketRequest)

/-- The observation that the price of a variant is of. -/
def observationOf (v : ProductVariant) : Option PriceObservation :=
  gatedObservation shop.db v.id req.storeId (requiredScope req) req.asOf false

/-- Every line is charged with a rule of the very observation whose amount is its price. -/
def ChargedByPrice : Prop :=
  ∀ item ∈ req.items, ∀ v price, chosenFor ilike th shop req item = some (v, price) → ∀ r ∈ observationOf shop req v,
    ∀ rule ∈ promotionRule shop v.id price, rule.priceObservationId = r.id

/-- An observation of the same variant, scope, instant and store, if the one of the price has a store. -/
def Coincides (variantId : Int) (r q : PriceObservation) : Prop :=
  q ∈ shop.db.observations ∧ q.productVariantId = variantId ∧ q.priceScope = r.priceScope ∧ q.observedAt = r.observedAt ∧
    ∀ s ∈ r.storeId, q.storeId = some s

/-- Of the observations that coincide with the one of the price the last inserted is that one, or it has no rule. -/
def LastOrBare (variantId : Int) (r : PriceObservation) : Prop :=
  ∀ q, Coincides shop variantId r q → (∀ q', Coincides shop variantId r q' → q'.id ≤ q.id) →
    q.id = r.id ∨ ∀ rule ∈ shop.promotionRules, rule.priceObservationId ≠ q.id

end Definitions

section Rules
variable {ilike : String → String → Bool} {th : Thresholds} {shop : Shop} {req : BasketRequest} {variantId : Int}
  {r : PriceObservation} {asOf : Instant}

theorem priceOf_eq_map {v : ProductVariant} : priceOf th shop req v = (observationOf shop req v).map (toCurrent th req.asOf) :=
  gatedCurrentPrice_eq_map

instance : Std.Total fun a b : PriceObservation => b.id ≤ a.id := ⟨fun a b => le_total b.id a.id⟩

instance : IsTrans PriceObservation fun a b => b.id ≤ a.id := ⟨fun _ _ _ hab hbc => hbc.trans hab⟩

instance : Std.Total fun a b : PromotionRule => b.id ≤ a.id := ⟨fun a b => le_total b.id a.id⟩

instance : IsTrans PromotionRule fun a b => b.id ≤ a.id := ⟨fun _ _ _ hab hbc => hbc.trans hab⟩

theorem mem_coinciding {q : PriceObservation} : (q ∈ shop.db.observations.filter fun q =>
      q.productVariantId = variantId && q.priceScope = (toCurrent th asOf r).priceScope &&
        q.observedAt = (toCurrent th asOf r).observedAt && (toCurrent th asOf r).storeId.all fun s => q.storeId = some s) ↔
    Coincides shop variantId r q := by
  show (q ∈ shop.db.observations.filter fun q => q.productVariantId = variantId && q.priceScope = r.priceScope &&
    q.observedAt = r.observedAt && r.storeId.all fun s => q.storeId = some s) ↔ _
  simp only [List.mem_filter, Coincides, Bool.and_eq_true, decide_eq_true_eq, Option.all_eq_true]
  tauto

theorem promotionRule_iff {rule : PromotionRule} (h : promotionRule shop variantId (toCurrent th asOf r) = some rule) :
    ∃ q, Coincides shop variantId r q ∧ (∀ q', Coincides shop variantId r q' → q'.id ≤ q.id) ∧
      rule ∈ shop.promotionRules ∧ rule.priceObservationId = q.id := by
  obtain ⟨q, hq, hrule⟩ := Option.bind_eq_some_iff.mp h
  obtain ⟨hmem, hid⟩ := List.mem_filter.mp (first_mem (r := fun a b : PromotionRule => b.id ≤ a.id) hrule)
  refine ⟨q, mem_coinciding.mp (first_mem hq), fun q' hq' => ?_, hmem, of_decide_eq_true hid⟩
  obtain ⟨q'', hq'', hle⟩ := first_precedes (r := fun a b : PriceObservation => b.id ≤ a.id) (mem_coinciding.mpr hq')
  obtain rfl := Option.some.inj (hq.symm.trans hq'')
  rcases hle with rfl | hle
  · exact le_rfl
  · exact hle

theorem exists_promotionRule {q : PriceObservation} {rule : PromotionRule} (hq : Coincides shop variantId r q)
    (hlast : ∀ q', Coincides shop variantId r q' → q'.id ≤ q.id) (hrule : rule ∈ shop.promotionRules)
    (hid : rule.priceObservationId = q.id) :
    ∃ rule', promotionRule shop variantId (toCurrent th asOf r) = some rule' ∧ rule'.priceObservationId = q.id := by
  obtain ⟨q', hq', hle⟩ := first_precedes (r := fun a b : PriceObservation => b.id ≤ a.id)
    (@mem_coinciding th shop variantId r asOf q |>.mpr hq)
  have hsame : q'.id = q.id := by
    refine le_antisymm (hlast q' (mem_coinciding.mp (first_mem hq'))) ?_
    rcases hle with rfl | hle
    · exact le_rfl
    · exact hle
  obtain ⟨rule', hrule', -⟩ := first_precedes (r := fun a b : PromotionRule => b.id ≤ a.id)
    (List.mem_filter.mpr ⟨hrule, decide_eq_true (hid.trans hsame.symm)⟩ :
      rule ∈ shop.promotionRules.filter (·.priceObservationId = q'.id))
  refine ⟨rule', Option.bind_eq_some_iff.mpr ⟨q', hq', hrule'⟩, ?_⟩
  rw [← hsame]
  exact of_decide_eq_true (List.mem_filter.mp (first_mem (r := fun a b : PromotionRule => b.id ≤ a.id) hrule')).2

theorem attached_iff : (∀ rule ∈ promotionRule shop variantId (toCurrent th asOf r), rule.priceObservationId = r.id) ↔
    LastOrBare shop variantId r := by
  constructor
  · intro h q hq hlast
    by_contra! hneither
    obtain ⟨hne, rule, hrule, hid⟩ := hneither
    obtain ⟨rule', hrule', hid'⟩ := @exists_promotionRule th shop variantId r asOf q rule hq hlast hrule hid
    exact hne (hid'.symm.trans (h rule' hrule'))
  · intro h rule hrule
    obtain ⟨q, hq, hlast, hmem, hid⟩ := promotionRule_iff hrule
    rcases h q hq hlast with hsame | hbare
    · exact hid.trans hsame
    · exact absurd hid (hbare rule hmem)

end Rules

/-! ### A disputed offer -/

/-- The price of the rice, and a disputed reading of the same instant that offers two for one. -/
def disputedOffer : Shop where
  db := { observations := [shelfRow 1 2, { shelfRow 2 2 with verificationStatus := .disputed }] }
  variants := [riceShop.variants[1]]
  products := riceShop.products
  promotionRules := [{ id := 1, priceObservationId := 2, type := .nxm, requiredQuantity := some 2, chargedQuantity := some 1 }]

end CestaPlan.Basket
