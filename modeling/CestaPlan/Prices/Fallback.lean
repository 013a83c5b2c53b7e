import CestaPlan.Prices.PriceScope

/-! The fallback for an ingredient that its own product cannot cost (`services/price_fallback.py`): five steps over the usable
    candidates, then the degradations. -/

namespace CestaPlan.Prices

inductive ProductCostingMode where
  | fixedPackage | variableWeight | variableVolume | discreteUnit | unresolved
deriving DecidableEq, Repr

namespace Fallback

inductive FallbackAction where
  | alternateVariant | alternateBrand | alternatePackage | canonicalEquivalent | dietarySubstitution
  | recipeRegenerationRequired | partialCost | userApprovalRequired | noVerifiedSolution
deriving DecidableEq, Repr

inductive Freshness where
  | fresh | stale | expired
deriving DecidableEq, Repr

structure FallbackCandidate where
  productId : Int
  variantId : Option Int
  canonicalName : String
  brand : Option String
  costingMode : ProductCostingMode
  price : Option ℚ
  priceScope : String
  freshness : Freshness := .fresh
  isCommunity : Bool := false
  isEstimated : Bool := false
  netContentSignature : Option String := none
  allergens : List String := []
  dietTags : List String := []
  sameCanonical : Bool := true
  isSubstitution : Bool := false
deriving DecidableEq

structure IngredientNeed where
  ingredientId : Int
  canonicalName : String
  quantity : ℚ
  unit : String
  requiredScope : String
  householdAllergens : List String := []
  dietaryConstraints : List String := []
  originalProductId : Option Int := none
  originalNetContentSignature : Option String := none
  originalBrand : Option String := none
  originalCost : Option ℚ := none
deriving DecidableEq

/-- The flags of `resolve_with_fallback`. -/
structure Allowances where
  allowStale : Bool := false
  allowEstimated : Bool := false
  allowCommunity : Bool := false
deriving DecidableEq

structure FallbackDecision where
  ingredientId : Int
  action : FallbackAction
  reason : String
  hardConstraintsChecked : Bool := true
  allergensChecked : Bool := true
  dietaryConstraintsChecked : Bool := true
  priceScope : Option String := none
  originalProductId : Option Int := none
  selectedProductId : Option Int := none
  originalCost : Option ℚ := none
  replacementCost : Option ℚ := none
  confidence : ℚ := 0
  warnings : List String := []
deriving DecidableEq

section Candidates
variable (need : IngredientNeed) (allow : Allowances) (c : FallbackCandidate)

def blocksOnConstraint : Bool :=
  c.allergens.any need.householdAllergens.contains || c.dietTags.any need.dietaryConstraints.contains

def isPriced : Bool := c.price.any fun price => 0 < price

/-- Not fresh, of the community or estimated, and none of it allowed. -/
def needsApproval : Bool :=
  (c.freshness ≠ .fresh && !allow.allowStale) || (c.isCommunity && !allow.allowCommunity) ||
    (c.isEstimated && !allow.allowEstimated)

def usable : Bool :=
  if !isPriced c then false
  else if c.costingMode = .unresolved then false
  else if blocksOnConstraint need c then false
  else if !scopeSatisfies c.priceScope need.requiredScope then false
  else if c.freshness ≠ .fresh && !allow.allowStale then false
  else if c.isCommunity && !allow.allowCommunity then false
  else !(c.isEstimated && !allow.allowEstimated)

def decideFor (action : FallbackAction) (reason : String) (confidence : ℚ) : FallbackDecision where
  ingredientId := need.ingredientId
  action := action
  reason := reason
  priceScope := some c.priceScope
  originalProductId := need.originalProductId
  selectedProductId := some c.productId
  originalCost := need.originalCost
  replacementCost := c.price
  confidence := confidence
  warnings :=
    (if c.priceScope ≠ need.requiredScope then
      ["scope changed " ++ need.requiredScope ++ " -> " ++ c.priceScope ++ " (surfaced, not silent)"] else []) ++
    (match c.brand, action with
      | some brand, .alternateBrand => if brand ≠ "" then ["brand substituted -> " ++ brand] else []
      | _, _ => [])

/-- The steps 1 to 5, each with the candidates it takes. -/
def isAlternateVariant : Bool := some c.productId = need.originalProductId && c.variantId.isSome

def isAlternatePackage : Bool := c.sameCanonical && c.netContentSignature ≠ need.originalNetContentSignature

def isAlternateBrand : Bool := c.sameCanonical && c.brand.isSome && c.brand ≠ need.originalBrand

def isCanonicalEquivalent : Bool := c.sameCanonical && some c.productId ≠ need.originalProductId

end Candidates

section Resolve
variable (need : IngredientNeed) (allow : Allowances) (candidates : List FallbackCandidate)

/-- The first of the five steps that takes a usable candidate. -/
def direct : Option FallbackDecision :=
  let usable := candidates.filter (usable need allow)
  match usable.find? (isAlternateVariant need) with
  | some c => some (decideFor need c .alternateVariant "another variant of the same product in the same scope" (95 / 100))
  | none => match usable.find? (isAlternatePackage need) with
    | some c => some (decideFor need c .alternatePackage "a different package size of the same ingredient" (85 / 100))
    | none => match usable.find? (isAlternateBrand need) with
      | some c => some (decideFor need c .alternateBrand "a different brand of the same ingredient" (8 / 10))
      | none => match usable.find? (isCanonicalEquivalent need) with
        | some c => some (decideFor need c .canonicalEquivalent "another product mapped to the same ingredient" (9 / 10))
        | none => match usable.find? (·.isSubstitution) with
          | some c => some (decideFor need c .dietarySubstitution "a compatible food substitution (allergen/diet safe)" (7 / 10))
          | none => none

/-- An allergen or a diet is never traded for a price. -/
def pricedSafe : List FallbackCandidate := candidates.filter fun c => isPriced c && !blocksOnConstraint need c

/-- Steps 6 to 9. -/
def degrade : FallbackDecision :=
  match (pricedSafe need candidates).find? (fun c => c.costingMode ≠ .unresolved && needsApproval allow c) with
  | some c =>
    { ingredientId := need.ingredientId
      action := .userApprovalRequired
      reason := "only an old/community/estimated price is available"
      priceScope := some c.priceScope
      originalProductId := need.originalProductId
      selectedProductId := some c.productId
      originalCost := need.originalCost
      replacementCost := c.price
      confidence := 4 / 10
      warnings := ["requires explicit user approval before use"] }
  | none =>
    if pricedSafe need candidates ≠ [] then
      { ingredientId := need.ingredientId
        action := .partialCost
        reason := "a priced candidate exists but its costing/scope is unresolved"
        originalProductId := need.originalProductId
        confidence := 3 / 10
        warnings := ["recipe cost is PARTIAL for this ingredient"] }
    else if candidates.any isPriced then
      { ingredientId := need.ingredientId
        action := .noVerifiedSolution
        reason := "only constraint-breaching (allergen/diet) products exist — never substituted"
        originalProductId := need.originalProductId
        warnings := ["no verifiable solution — ingredient left uncosted"] }
    else if candidates ≠ [] then
      { ingredientId := need.ingredientId
        action := .recipeRegenerationRequired
        reason := "no priced candidate; a different recipe/ingredient set is required"
        originalProductId := need.originalProductId
        confidence := 1 / 10 }
    else
      { ingredientId := need.ingredientId
        action := .noVerifiedSolution
        reason := "no mapped, priced, in-scope and constraint-safe product exists"
        originalProductId := need.originalProductId
        warnings := ["no verifiable solution — ingredient left uncosted"] }

def resolveWithFallback : FallbackDecision := (direct need allow candidates).getD (degrade need allow candidates)

end Resolve

def FallbackAction.IsDirect : FallbackAction → Prop
  | .alternateVariant | .alternatePackage | .alternateBrand | .canonicalEquivalent | .dietarySubstitution => True
  | _ => False

section Claims
variable (need : IngredientNeed) (allow : Allowances) (candidates : List FallbackCandidate)

/-- A candidate that may be named. -/
structure Nameable (c : FallbackCandidate) : Prop where
  safe : blocksOnConstraint need c = false
  priced : isPriced c = true
  costable : c.costingMode ≠ .unresolved
  inScope : scopeSatisfies c.priceScope need.requiredScope = true

/-- The decision names the candidate: its product, price and scope. -/
def FallbackDecision.Names (d : FallbackDecision) (c : FallbackCandidate) : Prop :=
  d.selectedProductId = some c.productId ∧ d.replacementCost = c.price ∧ d.priceScope = some c.priceScope

structure Complies : Prop where
  direct : (∃ c ∈ candidates, usable need allow c = true) → (resolveWithFallback need allow candidates).action.IsDirect
  names : ∀ product ∈ (resolveWithFallback need allow candidates).selectedProductId, ∃ c ∈ candidates, c.productId = product ∧
    (resolveWithFallback need allow candidates).Names c ∧ Nameable need c
  unsolved : (resolveWithFallback need allow candidates).action = .noVerifiedSolution →
    ∀ c ∈ candidates, isPriced c = true → blocksOnConstraint need c = true

/-- Some step takes the candidate. -/
def taken (c : FallbackCandidate) : Bool :=
  isAlternateVariant need c || isAlternatePackage need c || isAlternateBrand need c || isCanonicalEquivalent need c || c.isSubstitution

/-- Where the approval of the user is asked for a candidate. -/
def offered (c : FallbackCandidate) : Bool :=
  isPriced c && !blocksOnConstraint need c && c.costingMode ≠ .unresolved && needsApproval allow c

/-- If some candidate is usable, a usable one is taken by a step; and if none is, the first one that approval is asked for is in
    scope. -/
structure Covered : Prop where
  ladder : (∃ c ∈ candidates, usable need allow c = true) → ∃ c ∈ candidates, usable need allow c = true ∧ taken need c = true
  approval : (∀ c ∈ candidates, usable need allow c = false) → ∀ c ∈ candidates.find? (offered need allow),
    scopeSatisfies c.priceScope need.requiredScope = true

end Claims

section Usable
variable {need : IngredientNeed} {allow : Allowances} {c : FallbackCandidate}

theorem usable_iff : usable need allow c = true ↔ Nameable need c ∧ needsApproval allow c = false := by
  unfold usable
  constructor
  · intro h
    split_ifs at h with hpriced hmode hblocks hscope hfresh hcommunity
    simp only [Bool.not_eq_true, Bool.not_eq_true', Bool.not_eq_false] at hpriced hblocks hscope h
    refine ⟨⟨hblocks, hpriced, hmode, hscope⟩, ?_⟩
    simp only [needsApproval, Bool.or_eq_false_iff]
    exact ⟨⟨by simpa using hfresh, by simpa using hcommunity⟩, h⟩
  · rintro ⟨hname, happroval⟩
    simp only [needsApproval, Bool.or_eq_false_iff] at happroval
    obtain ⟨⟨hfresh, hcommunity⟩, hestimated⟩ := happroval
    rw [if_neg (by simp [hname.priced]), if_neg hname.costable, if_neg (by simp [hname.safe]), if_neg (by simp [hname.inScope]),
      if_neg (Bool.eq_false_iff.mp hfresh), if_neg (Bool.eq_false_iff.mp hcommunity), hestimated, Bool.not_false]

theorem decideFor_names {action : FallbackAction} {reason : String} {confidence : ℚ} :
    (decideFor need c action reason confidence).Names c := ⟨rfl, rfl, rfl⟩

/-- The decision is that of a step, for a usable candidate of the list. -/
def Takes (need : IngredientNeed) (allow : Allowances) (candidates : List FallbackCandidate) (decision : Option FallbackDecision) : Prop :=
  ∃ c ∈ candidates, usable need allow c = true ∧ taken need c = true ∧ ∃ d, decision = some d ∧ d.action.IsDirect ∧ d.Names c

theorem takes_or_next {candidates : List FallbackCandidate} {p : FallbackCandidate → Bool} {action : FallbackAction} {reason : String}
    {confidence : ℚ} {next : Option FallbackDecision} {Q : Prop} (haction : action.IsDirect)
    (hp : ∀ c, p c = true → taken need c = true)
    (hnext : (∀ c ∈ candidates, usable need allow c = true → p c = false) → Takes need allow candidates next ∨ (next = none ∧ Q)) :
    let decision := match (candidates.filter (usable need allow)).find? p with
      | some c => some (decideFor need c action reason confidence)
      | none => next
    Takes need allow candidates decision ∨ (decision = none ∧ Q) := by
  cases hfound : (candidates.filter (usable need allow)).find? p with
  | some c =>
    obtain ⟨hmem, husable⟩ := List.mem_filter.mp (List.mem_of_find?_eq_some hfound)
    exact .inl ⟨c, hmem, husable, hp c (List.find?_some hfound), _, rfl, haction, decideFor_names⟩
  | none =>
    refine hnext fun c hc husable => ?_
    simpa using List.find?_eq_none.mp hfound c (List.mem_filter.mpr ⟨hc, husable⟩)

/-- One of the five steps takes a usable candidate exactly if the kind of some usable candidate is one that a step takes. -/
theorem direct_cases (need : IngredientNeed) (allow : Allowances) (candidates : List FallbackCandidate) :
    Takes need allow candidates (direct need allow candidates) ∨
    (direct need allow candidates = none ∧ ∀ c ∈ candidates, usable need allow c = true → taken need c = false) := by
  refine takes_or_next trivial (fun c hp => by simp [taken, hp]) fun hvariant => ?_
  refine takes_or_next trivial (fun c hp => by simp [taken, hp]) fun hpackage => ?_
  refine takes_or_next trivial (fun c hp => by simp [taken, hp]) fun hbrand => ?_
  refine takes_or_next trivial (fun c hp => by simp [taken, hp]) fun hequivalent => ?_
  refine takes_or_next trivial (fun c hp => by simp [taken, hp]) fun hsubstitution => ?_
  refine .inr ⟨rfl, fun c hc husable => ?_⟩
  simp [taken, hvariant c hc husable, hpackage c hc husable, hbrand c hc husable, hequivalent c hc husable, hsubstitution c hc husable]

end Usable

section Degradations
variable {need : IngredientNeed} {allow : Allowances} {candidates : List FallbackCandidate}

theorem degrade_cases (need : IngredientNeed) (allow : Allowances) (candidates : List FallbackCandidate) :
    (∃ c, candidates.find? (offered need allow) = some c ∧ (degrade need allow candidates).action = .userApprovalRequired ∧
      (degrade need allow candidates).Names c) ∨
    (candidates.find? (offered need allow) = none ∧ (degrade need allow candidates).selectedProductId = none ∧
      ¬(degrade need allow candidates).action.IsDirect ∧
      ((degrade need allow candidates).action = .noVerifiedSolution →
        ∀ c ∈ candidates, isPriced c = true → blocksOnConstraint need c = true)) := by
  have hfind : (pricedSafe need candidates).find? (fun c => c.costingMode ≠ .unresolved && needsApproval allow c) =
      candidates.find? (offered need allow) := by
    rw [pricedSafe, List.find?_filter]
    congr 1
    funext c
    simp only [offered, Bool.and_assoc, Bool.decide_and, Bool.decide_eq_true]
  unfold degrade
  rw [hfind]
  cases h : candidates.find? (offered need allow) with
  | some c => exact .inl ⟨c, rfl, rfl, rfl, rfl, rfl⟩
  | none =>
    refine .inr ⟨rfl, ?_⟩
    simp only
    split_ifs with hsafe hpriced hany
    · exact ⟨rfl, id, fun h => by cases h⟩
    · refine ⟨rfl, id, fun _ c hc hprice => ?_⟩
      rw [ne_eq, not_not, pricedSafe, List.filter_eq_nil_iff] at hsafe
      simpa [hprice] using hsafe c hc
    · exact ⟨rfl, id, fun h => by cases h⟩
    · refine ⟨rfl, id, fun _ c hc => ?_⟩
      rw [ne_eq, not_not] at hany
      rw [hany] at hc
      cases hc

/-- The ladder complies exactly if its steps cover the usable candidates and approval is asked within the scope. -/
theorem complies_iff : Complies need allow candidates ↔ Covered need allow candidates := by
  rcases direct_cases need allow candidates with
    ⟨c, hmem, husable, htaken, d, hd, haction, hnames⟩ | ⟨hnone, hno⟩
  · have hres : resolveWithFallback need allow candidates = d := by rw [resolveWithFallback, hd, Option.getD_some]
    refine iff_of_true ⟨fun _ => hres ▸ haction, fun product hproduct => ?_, fun h => ?_⟩
      ⟨fun _ => ⟨c, hmem, husable, htaken⟩, fun h => absurd husable (by simp [h c hmem])⟩
    · rw [hres] at hproduct ⊢
      exact ⟨c, hmem, Option.some.inj (hnames.1.symm.trans hproduct), hnames, (usable_iff.mp husable).1⟩
    · rw [hres] at h
      rw [h] at haction
      exact haction.elim
  · have hres : resolveWithFallback need allow candidates = degrade need allow candidates := by
      rw [resolveWithFallback, hnone, Option.getD_none]
    have hladder : (∃ c ∈ candidates, usable need allow c = true ∧ taken need c = true) ↔ False := by
      refine iff_false_intro ?_
      rintro ⟨c, hc, husable, htaken⟩
      exact absurd htaken (by simp [hno c hc husable])
    rcases degrade_cases need allow candidates with
      ⟨c, hfind, haction, hnames⟩ | ⟨hfind, hselected, hindirect, hunsolved⟩
    · have hoffered := List.find?_some hfind
      simp only [offered, Bool.and_eq_true, Bool.not_eq_true', decide_eq_true_eq] at hoffered
      obtain ⟨⟨⟨hpriced, hsafe⟩, hcostable⟩, -⟩ := hoffered
      constructor
      · intro h
        refine ⟨fun husable => ?_, fun _ c' hc' => ?_⟩
        · have hdirect := h.direct husable
          rw [hres, haction] at hdirect
          exact hdirect.elim
        · obtain rfl := Option.some.inj (hfind.symm.trans hc')
          obtain ⟨c', -, -, hnames', hnameable⟩ := h.names c.productId (hres ▸ hnames.1)
          have hscope : c.priceScope = c'.priceScope := Option.some.inj (hnames.2.2.symm.trans (hres ▸ hnames'.2.2))
          rw [hscope]
          exact hnameable.inScope
      · intro h
        refine ⟨fun husable => (hladder.mp (h.ladder husable)).elim, fun product hproduct => ?_, fun hunsolved => ?_⟩
        · rw [hres] at hproduct ⊢
          have hunusable : ∀ c ∈ candidates, usable need allow c = false := fun c' hc' => by
            by_contra husable
            exact hladder.mp (h.ladder ⟨c', hc', by simpa using husable⟩)
          exact ⟨c, List.mem_of_find?_eq_some hfind, Option.some.inj (hnames.1.symm.trans hproduct), hnames,
            hsafe, hpriced, hcostable, h.approval hunusable c hfind⟩
        · rw [hres, haction] at hunsolved
          cases hunsolved
    · constructor
      · intro h
        refine ⟨fun husable => ?_, fun _ c' hc' => absurd hc' (by simp [hfind])⟩
        have hdirect := h.direct husable
        rw [hres] at hdirect
        exact absurd hdirect hindirect
      · intro h
        refine ⟨fun husable => (hladder.mp (h.ladder husable)).elim, fun product hproduct => ?_, fun haction => ?_⟩
        · rw [hres, hselected] at hproduct
          cases hproduct
        · exact hunsolved (hres ▸ haction)

end Degradations

/-! ### The national plan and the postcode -/

/-- A litre of milk for a plan without a zone. -/
def milkNeed : IngredientNeed where
  ingredientId := 1
  canonicalName := "leche"
  quantity := 1
  unit := "l"
  requiredScope := "national"
  originalProductId := some 100
  originalNetContentSignature := some "1000ml"

/-- An old price of one postcode. -/
def postcodeMilk : FallbackCandidate where
  productId := 100
  variantId := some 10
  canonicalName := "leche"
  brand := none
  costingMode := .fixedPackage
  price := some (95 / 100)
  priceScope := "postal_code"
  freshness := .stale
  netContentSignature := some "1000ml"

/-- The user is asked to approve a price of one postcode. -/
theorem not_complies_postcodeMilk : ¬Complies milkNeed {} [postcodeMilk] := by
  intro h
  obtain ⟨c, hc, -, -, hnameable⟩ := h.names 100 (by decide +kernel)
  obtain rfl := List.mem_singleton.mp hc
  exact absurd hnameable.inScope (by decide)

end Fallback
end CestaPlan.Prices
