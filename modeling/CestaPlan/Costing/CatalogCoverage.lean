import CestaPlan.Costing.RecipeCosting

/-! What share of the recipes a catalogue can cost (`services/recipe_catalog_coverage.py`).

    The scan of an ingredient takes the first candidate that is resolved, in scope and fresh, and else sticks to the first one with a
    price. Freshness is no part of being costable, so that one that is resolved and in scope but stale can be passed over. -/

namespace CestaPlan.Costing
open Engine (Runtime)
open History (Db Instant)
open Prices (ProductCostingMode scopeSatisfies)
open Numeric (quantize)

/-! ### What is evaluated -/

structure RankedMapping extends IngredientProductMapping where
  preferenceRank : Option Int

structure TaggedRecipe extends Recipe where
  mealTypes : List String
  preferenceTags : List String
  deleted : Bool
  isSynthetic : Bool

/-- The tables, each in the order in which it is listed. -/
structure Listing where
  retailers : List Retailer := []
  ingredientMappings : List RankedMapping := []
  providerMappings : List ProviderIngredientMapping := []
  variants : List ProductVariant := []
  prices : Db := {}
  thresholds : History.Thresholds := {}
  /-- The category of each ingredient. -/
  categories : List (Int × Option String) := []
  recipes : List TaggedRecipe := []

/-- The arguments of `evaluate_recipe_catalog_coverage`. -/
structure CoverageRequest where
  providerCode : String
  scope : String := "staging"
  storeId : Option Int := none
  postalCode : Option String := none
  mealType : Option String := none
  diet : Option String := none
  recipeLimit : Option Int := none
  now : Instant

namespace CoverageRequest
variable (q : CoverageRequest)

def staging : Bool := q.scope = "staging"

def retailerSlug : String := (retailerSlugs.lookup q.providerCode).getD q.providerCode

def requiredScope : String :=
  if (q.storeId.filter (· ≠ 0)).isSome then "exact_store"
  else if (q.postalCode.filter (· ≠ "")).isSome then "postal_code"
  else "national"

end CoverageRequest

structure IngredientStatus where
  ingredientId : Int
  canonicalName : String
  categoryCode : Option String
  mapped : Bool := false
  hasValidPrice : Bool := false
  packageResolved : Bool := false
  fresh : Bool := false
  scopeOk : Bool := false
  costingMode : ProductCostingMode := .unresolved
  selectedProductId : Option Int := none

def IngredientStatus.costable (st : IngredientStatus) : Bool :=
  st.mapped && st.hasValidPrice && st.packageResolved && st.scopeOk && st.costingMode ≠ .unresolved

/-- `_missing_reason` -/
def missingReason (st : IngredientStatus) : String :=
  if !st.mapped then st.canonicalName ++ ": sin mapear"
  else if !st.hasValidPrice then st.canonicalName ++ ": sin precio"
  else if !st.scopeOk then st.canonicalName ++ ": ámbito incompatible"
  else if st.costingMode = .unresolved then st.canonicalName ++ ": envase no resoluble"
  else if !st.fresh then st.canonicalName ++ ": precio antiguo"
  else st.canonicalName ++ ": no calculable"

/-! ### The candidates of an ingredient -/

section Ingredients
variable (py : Runtime) (q : CoverageRequest) (t : Listing)

def retailer? : Option Retailer := t.retailers.find? (·.slug = q.retailerSlug)

/-- Ranks in order, those that are missing last. -/
def rankBefore (a b : RankedMapping) : Prop :=
  match a.preferenceRank, b.preferenceRank with
  | some x, some y => x ≤ y
  | some _, none => True
  | none, some _ => False
  | none, none => True

instance (a b : RankedMapping) : Decidable (rankBefore a b) := by
  unfold rankBefore
  cases a.preferenceRank <;> cases b.preferenceRank <;> infer_instance

/-- `ing_to_products` of an ingredient: the products of the retailer's mappings by rank, then those of the provider's. -/
def productsOf (ingredientId : Int) : List Int :=
  match retailer? q t with
  | none => []
  | some retailer =>
    (((t.ingredientMappings.filter fun m => m.retailerId = some retailer.id && m.isActive).insertionSort rankBefore).filter
        (·.ingredientId = ingredientId)).map (·.productId) ++
      (t.providerMappings.filter fun m => m.providerCode = q.providerCode && m.active && m.ingredientId = ingredientId).filterMap
        (·.normalizedProductId)

/-- `variants_by_product` of a product. -/
def variantsByProduct (productId : Int) : List ProductVariant :=
  match retailer? q t with
  | none => []
  | some retailer => t.variants.filter fun v => v.retailerId = retailer.id && v.active && v.productId = some productId

/-- The products and variants of an ingredient, in the order of the two loops. -/
def listed (ingredientId : Int) : List (Int × ProductVariant) :=
  (productsOf q t ingredientId).flatMap fun productId => (variantsByProduct q t productId).map fun v => (productId, v)

/-- What a variant with a price offers. -/
structure Offer where
  productId : Int
  mode : ProductCostingMode
  scopeOk : Bool
  fresh : Bool

def offer? (productId : Int) (v : ProductVariant) : Option Offer :=
  (History.current t.prices t.thresholds v.id q.storeId none q.now q.staging).map fun price =>
    { productId := productId
      mode := classifyVariantCostingMode py v q.providerCode
      scopeOk := scopeSatisfies price.priceScope.value q.requiredScope
      fresh := price.status = .fresh }

def Offer.better (o : Offer) : Bool := o.mode ≠ .unresolved && o.scopeOk && o.fresh

def IngredientStatus.take (st : IngredientStatus) (o : Offer) : IngredientStatus :=
  { st with
    hasValidPrice := true
    selectedProductId := some o.productId
    packageResolved := o.mode ≠ .unresolved
    costingMode := o.mode
    scopeOk := o.scopeOk
    fresh := o.fresh }

/-- The two loops, up to the first `return`. -/
def scan (st : IngredientStatus) : List (Int × ProductVariant) → IngredientStatus
  | [] => st
  | (productId, v) :: rest => match offer? py q t productId v with
    | none => scan st rest
    | some o =>
      let st := if o.better || !st.hasValidPrice then st.take o else st
      if o.better then st else scan st rest

/-- `_evaluate_ingredient` -/
def evaluateIngredient (ri : RecipeIngredient) : IngredientStatus :=
  let st : IngredientStatus :=
    { ingredientId := ri.ingredientId
      canonicalName := ri.canonicalName
      categoryCode := (t.categories.lookup ri.ingredientId).join
      mapped := productsOf q t ri.ingredientId ≠ [] }
  if !st.mapped then st else scan py q t st (listed q t ri.ingredientId)

end Ingredients

/-! ### The recipes -/

/-- `recipes[:limit] if limit else recipes`; a negative limit counts from the end. -/
def upTo {α : Type} (limit : Option Int) (items : List α) : List α :=
  match limit with
  | none => items
  | some n => if n = 0 then items else if 0 < n then items.take n.toNat else items.take (items.length - (-n).toNat)

/-- `_load_recipes` -/
def loadRecipes (q : CoverageRequest) (t : Listing) : List TaggedRecipe :=
  let recipes := (t.recipes.filter fun r => !r.deleted && r.isSynthetic).insertionSort (fun a b => a.id ≤ b.id)
  let recipes := match q.mealType.filter (· ≠ "") with
    | some mealType => recipes.filter (·.mealTypes.contains mealType)
    | none => recipes
  let recipes := match q.diet.filter (· ≠ "") with
    | some diet => recipes.filter (·.preferenceTags.contains diet)
    | none => recipes
  upTo q.recipeLimit recipes

structure PartialRecipe where
  recipeId : Int
  title : String
  missing : List String

structure RecipeCatalogCoverage where
  providerCode : String
  retailerSlug : String
  priceScope : String
  evaluatedAt : Instant
  storeId : Option Int
  totalRecipes : ℕ := 0
  fullyCostableRecipes : ℕ := 0
  partiallyCostableRecipes : ℕ := 0
  uncostableRecipes : ℕ := 0
  totalRecipeIngredients : ℕ := 0
  mappedIngredients : ℕ := 0
  unmappedIngredients : ℕ := 0
  ingredientsWithValidPrice : ℕ := 0
  ingredientsWithoutPrice : ℕ := 0
  ingredientsWithCompletePackage : ℕ := 0
  ingredientsWithUnresolvedPackage : ℕ := 0
  ingredientsWithFreshPrice : ℕ := 0
  ingredientsWithStalePrice : ℕ := 0
  incompatibleScopeIngredients : ℕ := 0
  partiallyCostableDetail : List PartialRecipe := []

section Coverage
variable (py : Runtime) (q : CoverageRequest) (t : Listing)

def mandatory (recipe : TaggedRecipe) : List RecipeIngredient := recipe.ingredients.filter fun ri => !ri.optional

/-- Every mandatory ingredient is costable, and there is one. -/
def full (statuses : List IngredientStatus) : Bool := statuses ≠ [] && statuses.countP (·.costable) = statuses.length

def RecipeCatalogCoverage.addIngredients (cov : RecipeCatalogCoverage) (statuses : List IngredientStatus) : RecipeCatalogCoverage :=
  { cov with
    totalRecipeIngredients := cov.totalRecipeIngredients + statuses.length
    mappedIngredients := cov.mappedIngredients + statuses.countP (·.mapped)
    unmappedIngredients := cov.unmappedIngredients + statuses.countP (!·.mapped)
    ingredientsWithValidPrice := cov.ingredientsWithValidPrice + statuses.countP (·.hasValidPrice)
    ingredientsWithoutPrice := cov.ingredientsWithoutPrice + statuses.countP (!·.hasValidPrice)
    ingredientsWithCompletePackage := cov.ingredientsWithCompletePackage + statuses.countP (·.packageResolved)
    ingredientsWithUnresolvedPackage := cov.ingredientsWithUnresolvedPackage + statuses.countP (!·.packageResolved)
    ingredientsWithFreshPrice := cov.ingredientsWithFreshPrice + statuses.countP (·.fresh)
    ingredientsWithStalePrice := cov.ingredientsWithStalePrice + statuses.countP fun st => st.hasValidPrice && !st.fresh
    incompatibleScopeIngredients := cov.incompatibleScopeIngredients + statuses.countP fun st => st.hasValidPrice && !st.scopeOk }

/-- One turn of the loop over the recipes. -/
def RecipeCatalogCoverage.addRecipe (cov : RecipeCatalogCoverage) (recipe : TaggedRecipe) : RecipeCatalogCoverage :=
  let statuses := (mandatory recipe).map (evaluateIngredient py q t)
  let cov := { cov with totalRecipes := cov.totalRecipes + 1 }.addIngredients statuses
  if full statuses then { cov with fullyCostableRecipes := cov.fullyCostableRecipes + 1 }
  else if 0 < statuses.countP (·.costable) then
    { cov with
      partiallyCostableRecipes := cov.partiallyCostableRecipes + 1
      partiallyCostableDetail := cov.partiallyCostableDetail ++
        [{ recipeId := recipe.id, title := recipe.title,
           missing := ((statuses.filter fun st => !st.costable).map missingReason).take 8 }] }
  else { cov with uncostableRecipes := cov.uncostableRecipes + 1 }

/-- `evaluate_recipe_catalog_coverage` -/
def evaluateRecipeCatalogCoverage : RecipeCatalogCoverage :=
  (loadRecipes q t).foldl (RecipeCatalogCoverage.addRecipe py q t)
    { providerCode := q.providerCode
      retailerSlug := q.retailerSlug
      priceScope := q.requiredScope
      evaluatedAt := q.now
      storeId := q.storeId }

end Coverage

/-! ### When an ingredient is counted as costable -/

def Offer.eligible (o : Offer) : Bool := o.mode ≠ .unresolved && o.scopeOk

section Scan
variable (py : Runtime) (q : CoverageRequest) (t t' : Listing) (ingredientId : Int)

/-- Some mapped product has a variant with a current price, a resolved costing mode and a scope that satisfies the required one. -/
def Eligible : Prop :=
  ∃ productId ∈ productsOf q t ingredientId, ∃ v ∈ variantsByProduct q t productId, ∃ price,
    History.current t.prices t.thresholds v.id q.storeId none q.now q.staging = some price ∧
      classifyVariantCostingMode py v q.providerCode ≠ .unresolved ∧ scopeSatisfies price.priceScope.value q.requiredScope = true

/-- What the variants with a price offer, as they are listed. -/
def offers : List Offer := (listed q t ingredientId).filterMap fun c => offer? py q t c.1 c.2

/-- If a variant with a price is resolved and in scope, then one such has a fresh price, or the first one with a price is such. -/
def Settled : Prop :=
  (∃ o ∈ offers py q t ingredientId, o.eligible = true) →
    (∃ o ∈ offers py q t ingredientId, o.eligible = true ∧ o.fresh = true) ∨
      ∃ o, (offers py q t ingredientId).head? = some o ∧ o.eligible = true

/-- Each mandatory ingredient of the evaluated recipes is settled. -/
def AllSettled : Prop := ∀ recipe ∈ loadRecipes q t, ∀ ri ∈ mandatory recipe, Settled py q t ri.ingredientId

/-- Each mandatory ingredient is counted as costable just where it is. -/
def CountsEligible : Prop :=
  ∀ recipe ∈ loadRecipes q t, ∀ ri ∈ mandatory recipe,
    ((evaluateIngredient py q t ri).costable = true ↔ Eligible py q t ri.ingredientId)

/-- Active mappings, active variants and prices of variants without one may be added, and all of them be listed in another order. -/
structure Listing.Extends : Prop where
  retailers : t'.retailers = t.retailers
  recipes : t'.recipes = t.recipes
  ingredientMappings : ∀ m ∈ t.ingredientMappings, m.isActive = true → m ∈ t'.ingredientMappings
  providerMappings : ∀ m ∈ t.providerMappings, m.active = true → m ∈ t'.providerMappings
  variants : ∀ v ∈ t.variants, v.active = true → v ∈ t'.variants
  prices : ∀ v ∈ t.variants, v.active = true → ∀ storeId now staging price,
    History.current t.prices t.thresholds v.id storeId none now staging = some price →
      History.current t'.prices t'.thresholds v.id storeId none now staging = some price

/-- The same tables, listed in another order. -/
structure Listing.Reordered : Prop where
  retailers : t'.retailers = t.retailers
  recipes : t'.recipes = t.recipes
  ingredientMappings : t.ingredientMappings.Perm t'.ingredientMappings
  providerMappings : t.providerMappings.Perm t'.providerMappings
  variants : t.variants.Perm t'.variants
  prices : t'.prices = t.prices
  thresholds : t'.thresholds = t.thresholds

end Scan

section Evaluation
variable {py : Runtime} {q : CoverageRequest} {t t' : Listing} {ingredientId : Int} {ri : RecipeIngredient} {st : IngredientStatus}
  {o : Offer}

/-! #### The scan -/

/-- The offer that the scan settles on: the first that is better, or else the first of all. -/
def chosen (offers : List Offer) : Option Offer := (offers.find? Offer.better).or offers.head?

theorem take_take (st : IngredientStatus) (o o' : Offer) : (st.take o).take o' = st.take o' := rfl

theorem scan_priced (cands : List (Int × ProductVariant)) (st : IngredientStatus) (hst : st.hasValidPrice = true) :
    scan py q t st cands = (((cands.filterMap fun c => offer? py q t c.1 c.2).find? Offer.better).map st.take).getD st := by
  induction cands with
  | nil => rfl
  | cons c rest ih =>
    unfold scan
    cases hoffer : offer? py q t c.1 c.2 with
    | none => simpa [hoffer] using ih
    | some o =>
      cases hbetter : o.better with
      | true => simp [hoffer, hbetter]
      | false => simpa [hoffer, hbetter, hst] using ih

theorem scan_eq (cands : List (Int × ProductVariant)) (st : IngredientStatus) (hst : st.hasValidPrice = false) :
    scan py q t st cands = ((chosen (cands.filterMap fun c => offer? py q t c.1 c.2)).map st.take).getD st := by
  induction cands with
  | nil => rfl
  | cons c rest ih =>
    unfold scan
    cases hoffer : offer? py q t c.1 c.2 with
    | none => simpa [hoffer] using ih
    | some o =>
      cases hbetter : o.better with
      | true => simp [hoffer, hbetter, chosen]
      | false =>
        have hrest : scan py q t (st.take o) rest = _ := scan_priced rest (st.take o) rfl
        cases hfind : (rest.filterMap fun c => offer? py q t c.1 c.2).find? Offer.better with
        | none => simpa [hoffer, hbetter, hst, chosen, hfind] using hrest
        | some o' => simpa [hoffer, hbetter, hst, chosen, hfind, take_take] using hrest

theorem eligible_of_better (h : o.better = true) : o.eligible = true ∧ o.fresh = true := by
  unfold Offer.better at h
  rwa [Bool.and_eq_true] at h

theorem costable_take (hmapped : st.mapped = true) : (st.take o).costable = o.eligible := by
  simp [IngredientStatus.costable, IngredientStatus.take, Offer.eligible, hmapped]
  grind

theorem chosen_eligible_iff (offers : List Offer) : (∃ o, chosen offers = some o ∧ o.eligible = true) ↔
    (∃ o ∈ offers, o.eligible = true ∧ o.fresh = true) ∨ ∃ o, offers.head? = some o ∧ o.eligible = true := by
  unfold chosen
  cases hfind : offers.find? Offer.better with
  | some o =>
    have hbetter := eligible_of_better (List.find?_some hfind)
    exact ⟨fun _ => .inl ⟨o, List.mem_of_find?_eq_some hfind, hbetter⟩, fun _ => ⟨o, rfl, hbetter.1⟩⟩
  | none =>
    refine ⟨.inr, fun h => h.resolve_left ?_⟩
    rintro ⟨o, ho, heligible, hfresh⟩
    refine List.find?_eq_none.1 hfind o ho ?_
    unfold Offer.better
    rw [Bool.and_eq_true]
    exact ⟨heligible, hfresh⟩

/-! #### The ingredient -/

theorem costable_iff : (evaluateIngredient py q t ri).costable = true ↔
    (∃ o ∈ offers py q t ri.ingredientId, o.eligible = true ∧ o.fresh = true) ∨
      ∃ o, (offers py q t ri.ingredientId).head? = some o ∧ o.eligible = true := by
  rw [← chosen_eligible_iff]
  unfold evaluateIngredient
  by_cases hproducts : productsOf q t ri.ingredientId = []
  · simp [hproducts, offers, listed, chosen, IngredientStatus.costable]
  · simp only [hproducts, ne_eq, not_false_eq_true, decide_true, Bool.not_true, Bool.false_eq_true, if_false]
    rw [scan_eq _ _ rfl]
    cases hchosen : chosen (offers py q t ri.ingredientId) with
    | none =>
      have hnone : (chosen ((listed q t ri.ingredientId).filterMap fun c => offer? py q t c.1 c.2)) = none := hchosen
      simp [hnone, IngredientStatus.costable]
    | some o =>
      have hsome : (chosen ((listed q t ri.ingredientId).filterMap fun c => offer? py q t c.1 c.2)) = some o := hchosen
      rw [hsome, Option.map_some, Option.getD_some, costable_take rfl]
      simp

theorem eligible_iff : Eligible py q t ingredientId ↔ ∃ o ∈ offers py q t ingredientId, o.eligible = true := by
  constructor
  · rintro ⟨productId, hproduct, v, hv, price, hprice, hmode, hscope⟩
    refine ⟨{ productId := productId, mode := classifyVariantCostingMode py v q.providerCode,
              scopeOk := scopeSatisfies price.priceScope.value q.requiredScope, fresh := price.status = .fresh }, ?_, ?_⟩
    · refine List.mem_filterMap.2 ⟨(productId, v), ?_, ?_⟩
      · exact List.mem_flatMap.2 ⟨productId, hproduct, List.mem_map.2 ⟨v, hv, rfl⟩⟩
      · simp [offer?, hprice]
    · simp [Offer.eligible, hmode, hscope]
  · rintro ⟨o, ho, heligible⟩
    obtain ⟨⟨productId, v⟩, hlisted, hoffer⟩ := List.mem_filterMap.1 ho
    obtain ⟨productId', hproduct, hv⟩ := List.mem_flatMap.1 hlisted
    obtain ⟨v', hv, heq⟩ := List.mem_map.1 hv
    cases heq
    obtain ⟨price, hprice, rfl⟩ := Option.map_eq_some_iff.1 hoffer
    simp only [Offer.eligible, Bool.and_eq_true, decide_eq_true_eq] at heligible
    exact ⟨productId, hproduct, v, hv, price, hprice, heligible.1, heligible.2⟩

theorem counted_iff : ((evaluateIngredient py q t ri).costable = true ↔ Eligible py q t ri.ingredientId) ↔ Settled py q t ri.ingredientId := by
  rw [costable_iff, eligible_iff]
  refine ⟨fun h heligible => h.2 heligible, fun h => ⟨?_, h⟩⟩
  rintro (⟨o, ho, heligible, -⟩ | ⟨o, ho, heligible⟩)
  · exact ⟨o, ho, heligible⟩
  · exact ⟨o, List.mem_of_head? ho, heligible⟩

/-! #### The recipes -/

/-- All mandatory ingredients of the recipe are counted as costable, and there is one. -/
def CostableRecipe (py : Runtime) (q : CoverageRequest) (t : Listing) (recipe : TaggedRecipe) : Prop :=
  mandatory recipe ≠ [] ∧ ∀ ri ∈ mandatory recipe, (evaluateIngredient py q t ri).costable = true

theorem full_iff {recipe : TaggedRecipe} : full ((mandatory recipe).map (evaluateIngredient py q t)) = true ↔ CostableRecipe py q t recipe := by
  unfold full CostableRecipe
  rw [Bool.and_eq_true, decide_eq_true_eq, decide_eq_true_eq, List.countP_eq_length]
  simp

theorem addRecipe_full (cov : RecipeCatalogCoverage) (recipe : TaggedRecipe) : (cov.addRecipe py q t recipe).fullyCostableRecipes =
    cov.fullyCostableRecipes + if full ((mandatory recipe).map (evaluateIngredient py q t)) then 1 else 0 := by
  unfold RecipeCatalogCoverage.addRecipe RecipeCatalogCoverage.addIngredients
  dsimp only
  split
  · rfl
  split
  · rfl
  · rfl

theorem fullyCostable_foldl (recipes : List TaggedRecipe) (cov : RecipeCatalogCoverage) :
    (recipes.foldl (RecipeCatalogCoverage.addRecipe py q t) cov).fullyCostableRecipes =
      cov.fullyCostableRecipes + recipes.countP fun recipe => full ((mandatory recipe).map (evaluateIngredient py q t)) := by
  induction recipes generalizing cov with
  | nil => rfl
  | cons recipe rest ih => rw [List.foldl_cons, ih, addRecipe_full, List.countP_cons, Nat.add_right_comm, Nat.add_assoc]

theorem fullyCostable_eq : (evaluateRecipeCatalogCoverage py q t).fullyCostableRecipes =
    (loadRecipes q t).countP fun recipe => full ((mandatory recipe).map (evaluateIngredient py q t)) :=
  (fullyCostable_foldl _ _).trans (Nat.zero_add _)

/-! #### Another listing -/

theorem Listing.Extends.retailer? (h : t.Extends t') : retailer? q t' = retailer? q t := by
  unfold CestaPlan.Costing.retailer?
  rw [h.retailers]

theorem Listing.Extends.loadRecipes (h : t.Extends t') : loadRecipes q t' = loadRecipes q t := by
  unfold CestaPlan.Costing.loadRecipes
  rw [h.recipes]

theorem mem_productsOf {productId : Int} : productId ∈ productsOf q t ingredientId ↔ ∃ retailer, retailer? q t = some retailer ∧
    ((∃ m ∈ t.ingredientMappings, m.retailerId = some retailer.id ∧ m.isActive = true ∧ m.ingredientId = ingredientId ∧
        m.productId = productId) ∨
      ∃ m ∈ t.providerMappings, m.providerCode = q.providerCode ∧ m.active = true ∧ m.ingredientId = ingredientId ∧
        m.normalizedProductId = some productId) := by
  unfold productsOf
  cases retailer? q t with
  | none => simp
  | some retailer =>
    simp only [List.mem_append, List.mem_map, List.mem_filter, List.mem_insertionSort, List.mem_filterMap, Bool.and_eq_true,
      decide_eq_true_eq, Option.some.injEq, exists_eq_left', and_assoc]

theorem mem_variantsByProduct {productId : Int} {v : ProductVariant} : v ∈ variantsByProduct q t productId ↔
    ∃ retailer, retailer? q t = some retailer ∧ v ∈ t.variants ∧ v.retailerId = retailer.id ∧ v.active = true ∧
      v.productId = some productId := by
  unfold variantsByProduct
  cases retailer? q t with
  | none => simp
  | some retailer =>
    simp only [List.mem_filter, Bool.and_eq_true, decide_eq_true_eq, Option.some.injEq, exists_eq_left', and_assoc]

theorem Eligible.extends (h : t.Extends t') : Eligible py q t ingredientId → Eligible py q t' ingredientId := by
  rintro ⟨productId, hproduct, v, hv, price, hprice, hmode, hscope⟩
  obtain ⟨retailer, hretailer, hmapped⟩ := mem_productsOf.1 hproduct
  obtain ⟨retailer', hretailer', hv, hsold, hactive, hof⟩ := mem_variantsByProduct.1 hv
  refine ⟨productId, mem_productsOf.2 ⟨retailer, h.retailer?.trans hretailer, ?_⟩, v,
    mem_variantsByProduct.2 ⟨retailer', h.retailer?.trans hretailer', h.variants v hv hactive, hsold, hactive, hof⟩,
    price, h.prices v hv hactive _ _ _ _ hprice, hmode, hscope⟩
  rcases hmapped with ⟨m, hm, hof, hactive, heq⟩ | ⟨m, hm, hof, hactive, heq⟩
  · exact .inl ⟨m, h.ingredientMappings m hm hactive, hof, hactive, heq⟩
  · exact .inr ⟨m, h.providerMappings m hm hactive, hof, hactive, heq⟩

theorem Listing.Reordered.extends (h : t.Reordered t') : t.Extends t' where
  retailers := h.retailers
  recipes := h.recipes
  ingredientMappings m hm _ := h.ingredientMappings.mem_iff.1 hm
  providerMappings m hm _ := h.providerMappings.mem_iff.1 hm
  variants v hv _ := h.variants.mem_iff.1 hv
  prices v _ _ storeId now staging price hprice := by rwa [h.prices, h.thresholds]

theorem Listing.Reordered.symm (h : t.Reordered t') : t'.Reordered t where
  retailers := h.retailers.symm
  recipes := h.recipes.symm
  ingredientMappings := h.ingredientMappings.symm
  providerMappings := h.providerMappings.symm
  variants := h.variants.symm
  prices := h.prices.symm
  thresholds := h.thresholds.symm

theorem countsEligible_iff : CountsEligible py q t ↔ AllSettled py q t :=
  forall₄_congr fun _ _ _ _ => counted_iff

theorem fullyCostable_mono (h : t.Extends t') (ht : CountsEligible py q t) (ht' : CountsEligible py q t') :
    (evaluateRecipeCatalogCoverage py q t).fullyCostableRecipes ≤ (evaluateRecipeCatalogCoverage py q t').fullyCostableRecipes := by
  rw [fullyCostable_eq, fullyCostable_eq, h.loadRecipes]
  refine List.countP_mono_left fun recipe hrecipe hfull => ?_
  obtain ⟨hmandatory, hcostable⟩ := full_iff.1 hfull
  refine full_iff.2 ⟨hmandatory, fun ri hri => ?_⟩
  have heligible := (ht recipe hrecipe ri hri).1 (hcostable ri hri)
  exact (ht' recipe (h.loadRecipes ▸ hrecipe) ri hri).2 (heligible.extends h)

/-- Each ingredient is counted as costable just where it is, if and only if each is settled. Of two listings where this is so, the one
    with more mappings, variants or prices makes no fewer recipes costable, and their order does not count. -/
theorem coverage_iff (py : Runtime) (q : CoverageRequest) (t : Listing) : (CountsEligible py q t ↔ AllSettled py q t) ∧
    ∀ t', AllSettled py q t → AllSettled py q t' →
      (t.Extends t' →
        (evaluateRecipeCatalogCoverage py q t).fullyCostableRecipes ≤ (evaluateRecipeCatalogCoverage py q t').fullyCostableRecipes) ∧
      (t.Reordered t' →
        (evaluateRecipeCatalogCoverage py q t).fullyCostableRecipes = (evaluateRecipeCatalogCoverage py q t').fullyCostableRecipes) := by
  refine ⟨countsEligible_iff, fun t' ht ht' => ?_⟩
  have hcounts := countsEligible_iff.2 ht
  have hcounts' := countsEligible_iff.2 ht'
  exact ⟨fun h => fullyCostable_mono h hcounts hcounts', fun h => Nat.le_antisymm (fullyCostable_mono h.extends hcounts hcounts')
    (fullyCostable_mono h.symm.extends hcounts' hcounts)⟩

/-! #### A stale price after one that is not resolved -/

def riceFact (variant : Int) : History.PriceFact :=
  { Prices.storeFact .national 0 with productVariantId := variant, storeId := none }

/-- A price of a variant of rice, observed at the start. -/
def riceRow (id : ℕ) (variant : Int) : History.PriceObservation where
  toPriceFact := (riceFact variant).store
  id := id
  stagingOnly := true
  sourceId := none
  importedAt := 0
  validFrom := 0
  validUntil := none
  confidenceScore := 1
  rawCaptureId := none
  crawlRunId := none
  verificationStatus := .unverified
  rolledBackAt := none
  rolledBackBy := none
  closedByRunId := none
  columns := History.PriceFact.store_stored (Prices.milk_fits : (riceFact variant).fits = true)

def riceVariant (id : Int) (content : Option Amount) : ProductVariant where
  id := id
  productId := some 9
  retailerId := 1
  externalProductId := id
  displayName := "Arroz"
  sellUnit := some "package"
  netContentQuantity := content
  netContentUnit := content.map fun _ => "kg"

def riceOfDish : RecipeIngredient where
  ingredientId := 3
  canonicalName := "arroz"
  quantity := ⟨10 ^ 3, by decide⟩
  unit := "g"

def riceDish : TaggedRecipe where
  id := 1
  title := "Arroz"
  servings := 1
  ingredients := [riceOfDish]
  mealTypes := []
  preferenceTags := []
  deleted := false
  isSynthetic := true

/-- A dish of rice, and two variants of rice whose prices are a day and a quarter old: the content of the first is not known. -/
def staleRice : Listing where
  retailers := [{ id := 1, slug := "lidl" }]
  ingredientMappings := [{ ingredientId := 3, productId := 9, retailerId := some 1, preferenceRank := none }]
  variants := [riceVariant 7 none, riceVariant 8 (some ⟨10 ^ 4, by decide⟩)]
  prices := { observations := [riceRow 1 7, riceRow 2 8] }
  recipes := [riceDish]

def riceRequest : CoverageRequest := { providerCode := "parsebot-lidl", now := 30 * History.microsPerHour }

theorem not_countsEligible_staleRice : ¬CountsEligible (Runtime.replay []) riceRequest staleRice ∧
    (evaluateRecipeCatalogCoverage (Runtime.replay []) riceRequest staleRice).fullyCostableRecipes = 0 ∧
      (evaluateRecipeCatalogCoverage (Runtime.replay []) riceRequest
        { staleRice with variants := staleRice.variants.reverse }).fullyCostableRecipes = 1 := by
  refine ⟨fun h => ?_, by decide +kernel, by decide +kernel⟩
  have hrecipes : loadRecipes riceRequest staleRice = [riceDish] := rfl
  have hmandatory : mandatory riceDish = [riceOfDish] := rfl
  have hcounted := h riceDish (hrecipes ▸ List.mem_cons_self) riceOfDish (hmandatory ▸ List.mem_cons_self)
  have huncounted : (evaluateIngredient (Runtime.replay []) riceRequest staleRice riceOfDish).costable = false := by decide +kernel
  have heligible : Eligible (Runtime.replay []) riceRequest staleRice riceOfDish.ingredientId := eligible_iff.2 (by decide +kernel)
  rw [hcounted.2 heligible] at huncounted
  cases huncounted

end Evaluation
end CestaPlan.Costing
