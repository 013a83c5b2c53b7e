import CestaPlan.Engine.Facade
import CestaPlan.Library.Buckets
import Mathlib.Data.List.MinMax
import Mathlib.Data.Prod.Lex

/-! A plan's basket at every chain (`services/plan_comparison.py`): the best single chain, and the split over all of them. -/

namespace CestaPlan.Comparison
open Engine

structure Retailer where
  id : Nat
  publicId : String
  name : String
deriving DecidableEq

/-! ### The plan -/

structure RecipeIngredient where
  canonicalName : String
  displayName : Option String := none
  quantity : ℚ
  unit : String
  optional : Bool := false
  substitutionGroup : Option String := none

structure Recipe where
  id : Nat
  title : String
  servings : Nat
  ingredients : List RecipeIngredient

structure PlannedMeal where
  recipeId : Nat
  scheduledDate : Option Date := none
  mealType : MealType
  servings : Nat

/-- A plan with its meals by id, and the recipes that are stored. -/
structure MealPlan where
  publicId : String
  currency : String
  startDate : Date
  planned : List PlannedMeal
  recipes : List Recipe

def mandatoryIngredient (ri : RecipeIngredient) : RecipeIngredientDTO where
  canonicalName := ri.canonicalName
  displayName := (ri.displayName.filter (· ≠ "")).getD ri.canonicalName
  quantity := ri.quantity
  unit := ri.unit
  substitutionGroup := ri.substitutionGroup

/-- `_mandatory_recipe_dto` -/
def mandatoryRecipeDto (recipe : Recipe) : CandidateRecipeDTO where
  recipeId := toString recipe.id
  title := recipe.title
  servings := max recipe.servings 1
  ingredients := (recipe.ingredients.filter (!·.optional)).map mandatoryIngredient
  servings_pos := le_max_right _ _

def planMeals (plan : MealPlan) : List MealAssignment :=
  plan.planned.zipIdx.filterMap fun (pm, index) => (plan.recipes.find? (·.id = pm.recipeId)).map fun recipe =>
    { slotIndex := index
      date := pm.scheduledDate.getD plan.startDate
      mealType := pm.mealType
      recipe := mandatoryRecipeDto recipe
      servings := pm.servings
      participants := [] }

/-- The groups are those of the facade. -/
def substitutionGroups (meals : List MealAssignment) : Dict String (List String) :=
  Engine.substitutionGroups (meals.map (·.recipe))

/-! ### The basket -/

structure BasketItem where
  canonicalName : String
  displayName : String
  requiredQuantity : ℚ
  requiredUnit : String
deriving DecidableEq

section Basket
variable (py : Runtime) (factors : Factors)

def addToBasket (meal : MealAssignment) (agg : Dict String BasketItem) (ing : RecipeIngredientDTO) : Dict String BasketItem :=
  let scale := py.div meal.servings meal.recipe.servings
  let entry := agg.getD ing.canonicalName
    { canonicalName := ing.canonicalName, displayName := ing.displayName, requiredQuantity := 0, requiredUnit := ing.unit }
  let qty := py.mul ing.quantity scale
  let added := match convert py factors qty ing.unit entry.requiredUnit (some ing.canonicalName) with
    | .ok qty => some qty
    -- Units that cannot be combined are left out.
    | .error _ => if ing.unit ≠ entry.requiredUnit then none else some qty
  agg.set ing.canonicalName
    { entry with requiredQuantity := added.elim entry.requiredQuantity (py.add entry.requiredQuantity) }

def consolidateBasket (meals : List MealAssignment) : List BasketItem :=
  (meals.foldl (fun agg meal => meal.recipe.ingredients.foldl (addToBasket py factors meal) agg) Dict.empty).entries.map (·.2)

end Basket

/-! ### The chains -/

structure ChainResult where
  retailer : Retailer
  knownCost : ℚ
  coverage : CoverageDTO
  costs : Dict String ℚ

namespace ChainResult

def ratio (r : ChainResult) : ℚ := r.coverage.priceCoverage

def fullCoverage (r : ChainResult) : Bool := r.coverage.priceCoverage = 1

end ChainResult

section Chains
variable (py : Runtime)

/-- An empty pantry and the default weights. -/
def chainProvisioner (groups : Dict String (List String)) (catalog : List CatalogProductDTO) (factors : Factors)
    (asOf : Date) : Provisioner where
  matcher := productMatcher catalog groups
  pantry := pantryCalculator [] factors (some asOf)
  weights := {}
  factors := factors
  asOf := some asOf

/-- `_cost_basket` -/
def costBasket (meals : List MealAssignment) (groups : Dict String (List String)) (catalog : List CatalogProductDTO)
    (factors : Factors) (asOf : Date) : Provision :=
  (chainProvisioner groups catalog factors asOf).provision py meals

/-- `_chain_costs`: of the lines with one name the first counts. -/
def chainCosts (prov : Provision) : Dict String ℚ :=
  (prov.groceryLines.filter (·.subtotalKnown)).foldl (fun costs line => costs.setDefault line.canonicalName line.subtotal)
    Dict.empty

def chainResult (retailer : Retailer) (prov : Provision) : ChainResult where
  retailer := retailer
  knownCost := prov.costKnown
  coverage := computeCoverage py prov.groceryLines
  costs := chainCosts prov

def nearFullCoverage : ℚ := 4 / 5

/-- `_best_single` -/
def bestSingle (results : List ChainResult) : Option ChainResult :=
  let priced := results.filter (!·.costs.entries.isEmpty)
  let full := priced.filter (·.fullCoverage)
  let pool := if full.isEmpty then priced.filter (nearFullCoverage ≤ ·.ratio) else full
  pool.argmin fun r => toLex (-r.ratio, toLex (r.knownCost, r.retailer.name))

/-! ### The split -/

structure SplitItem where
  canonicalName : String
  displayName : String
  cost : ℚ
  requiredQuantity : ℚ
  requiredUnit : String
deriving DecidableEq

structure Split where
  itemsByRetailer : Dict Nat (List SplitItem) := Dict.empty
  total : ℚ := 0
  uncovered : List BasketItem := []

def offers (results : List ChainResult) (canonicalName : String) : List (ℚ × ChainResult) :=
  results.filterMap fun r => (r.costs.get? canonicalName).map (·, r)

def cheapest (results : List ChainResult) (canonicalName : String) : Option (ℚ × ChainResult) :=
  (offers results canonicalName).argmin fun o => toLex (o.1, o.2.retailer.name)

def splitItem (item : BasketItem) (cost : ℚ) : SplitItem where
  canonicalName := item.canonicalName
  displayName := item.displayName
  cost := cost
  requiredQuantity := item.requiredQuantity
  requiredUnit := item.requiredUnit

def addToSplit (results : List ChainResult) (s : Split) (item : BasketItem) : Split :=
  match cheapest results item.canonicalName with
  | none => { s with uncovered := s.uncovered ++ [item] }
  | some (cost, chosen) =>
    { s with
      itemsByRetailer := Buckets.push s.itemsByRetailer chosen.retailer.id (splitItem item cost)
      total := py.add s.total cost }

def split (basket : List BasketItem) (results : List ChainResult) : Split := basket.foldl (addToSplit py results) {}

/-! ### The comparison -/

structure ChainSplit where
  retailerId : String
  retailerName : String
  subtotal : ℚ
  items : List SplitItem
deriving DecidableEq

structure PlanComparison where
  mealPlanId : String
  currency : String
  basket : List BasketItem
  chains : List ChainResult
  bestSingle : Option ChainResult
  splitTotal : ℚ
  savings : Option ℚ
  byChain : List ChainSplit
  uncovered : List BasketItem

/-- `{r.retailer.id: .. for r in results}` -/
def byId (results : List ChainResult) (value : Retailer → String) : Dict Nat String :=
  results.foldl (fun d r => d.set r.retailer.id (value r.retailer)) Dict.empty

def splitByChain (results : List ChainResult) (items : Dict Nat (List SplitItem)) : List ChainSplit :=
  let names := byId results (·.name)
  (items.entries.insertionSort fun a b => names.getD a.1 "" ≤ names.getD b.1 "").map fun (id, items) =>
    { retailerId := (byId results (·.publicId)).getD id ""
      retailerName := names.getD id ""
      subtotal := py.sum (items.map (·.cost))
      items := items }

def chainResults (plan : MealPlan) (chains : List (Retailer × List CatalogProductDTO))
    (conversions : List IngredientConversionDTO) (asOf : Date) : List ChainResult :=
  let meals := planMeals plan
  chains.map fun (retailer, catalog) =>
    chainResult py retailer (costBasket py meals (substitutionGroups meals) catalog (unitConverter py conversions) asOf)

/-- `compare_plan_across_chains`, from the visible chains with their catalogues. -/
def comparePlanAcrossChains (plan : MealPlan) (chains : List (Retailer × List CatalogProductDTO))
    (conversions : List IngredientConversionDTO) (asOf : Date) : PlanComparison :=
  let basket := consolidateBasket py (unitConverter py conversions) (planMeals plan)
  let results := chainResults py plan chains conversions asOf
  let best := bestSingle results
  let s := split py basket results
  { mealPlanId := plan.publicId
    currency := plan.currency
    basket := basket
    chains := results
    bestSingle := best
    splitTotal := s.total
    savings := best.map fun b => py.sub b.knownCost s.total
    byChain := splitByChain py results s.itemsByRetailer
    uncovered := s.uncovered }

end Chains
end CestaPlan.Comparison
