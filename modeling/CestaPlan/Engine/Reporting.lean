import CestaPlan.Engine.Provisioning

/-! Nutrition from the quantities used (`cestaplan_engine/nutrition.py`), and what a plan tells of itself: how far its lines are priced
    (`cestaplan_engine/pricing.py`), and why a meal was chosen and what stands in the way of a plan (`cestaplan_engine/explain.py`). -/

namespace CestaPlan.Engine

def macros : List Macro := [.kcal, .proteinG, .carbsG, .fatG]

structure NutritionCalculator where
  matcher : ProductMatcher
  factors : Factors

namespace NutritionCalculator
variable (py : Runtime) (n : NutritionCalculator)

/-- The nutrition of an ingredient's product with the hundreds of grams used, where both are known. -/
def usable (scale : ℚ) (ing : RecipeIngredientDTO) : Option (NutritionDTO × ℚ) := do
  let product ← n.matcher.matchIngredient ing
  let nutrition ← product.nutrition
  match convert py n.factors (py.mul ing.quantity scale) ing.unit "g" (some ing.canonicalName) with
  | .ok grams => some (nutrition, py.div grams 100)
  | .error _ => none

/-- `_accumulate` of one macro, from zero. -/
def accumulate (recipe : CandidateRecipeDTO) (scale : ℚ) (m : Macro) : ℚ :=
  recipe.ingredients.foldl (fun total ing =>
    match (n.usable py scale ing).bind fun (nutrition, factor) => (nutrition.get m).map (py.mul · factor) with
    | some value => py.add total value
    | none => total) 0

def isComplete (recipe : CandidateRecipeDTO) (scale : ℚ) : Bool :=
  recipe.ingredients.all fun ing => (n.usable py scale ing).any fun (nutrition, _) =>
    macros.all fun m => (nutrition.get m).isSome

def contributed (recipe : CandidateRecipeDTO) (scale : ℚ) : Bool :=
  recipe.ingredients.any fun ing => (n.usable py scale ing).isSome

/-- The nutrition of the whole batch of a meal. -/
def forMeal (meal : MealAssignment) : Option NutritionDTO × Bool :=
  let scale := py.div meal.servings meal.recipe.servings
  if n.contributed py meal.recipe scale then
    (some
      { kcal := some (n.accumulate py meal.recipe scale .kcal)
        proteinG := some (n.accumulate py meal.recipe scale .proteinG)
        carbsG := some (n.accumulate py meal.recipe scale .carbsG)
        fatG := some (n.accumulate py meal.recipe scale .fatG) },
      n.isComplete py meal.recipe scale)
  else (none, false)

/-- One serving of each meal, summed. -/
def forMealsPerServing (meals : List MealAssignment) : (Macro → ℚ) × Bool :=
  let scale := fun meal : MealAssignment => py.div 1 meal.recipe.servings
  (fun m => meals.foldl (fun total meal =>
      if n.contributed py meal.recipe (scale meal) then py.add total (n.accumulate py meal.recipe (scale meal) m)
      else total) 0,
    meals.all fun meal => n.isComplete py meal.recipe (scale meal))

end NutritionCalculator
end CestaPlan.Engine

namespace CestaPlan.Engine

/-! ### Prices -/

/-- A line without a known price that still has a subtotal is priced from an estimate. -/
def GroceryLineDTO.estimated (line : GroceryLineDTO) : Bool := !line.subtotalKnown && decide (0 < line.subtotal)

def coverageStatus (totalLines : Nat) (priceCoverage weighted : ℚ) (expired : Nat) : CoverageStatus :=
  if totalLines = 0 then .complete
  else if 0 < expired then .stale
  else if priceCoverage = 0 then .none
  else if priceCoverage = 1 then .complete
  else if 9 / 10 ≤ weighted then .high
  else if 3 / 5 ≤ weighted then .partly
  else .insufficient

def computeCoverage (py : Runtime) (lines : List GroceryLineDTO) : CoverageDTO :=
  let totalLines := lines.length
  let withPrice := lines.countP (·.subtotalKnown)
  let estimated := lines.countP (·.estimated)
  let expired := lines.countP (·.expired)
  let knownValue := py.sum ((lines.filter (·.subtotalKnown)).map (·.subtotal))
  let estimatedValue := py.sum ((lines.filter (·.estimated)).map (·.subtotal))
  let priceCoverage := if totalLines = 0 then 1 else py.div withPrice totalLines
  let totalValue := py.add knownValue estimatedValue
  let weighted :=
    if totalValue = 0 then if withPrice = totalLines then 1 else 0
    else py.div knownValue totalValue
  { priceCoverage := priceCoverage
    weightedPriceCoverage := weighted
    status := coverageStatus totalLines priceCoverage weighted expired
    counts :=
      { withPrice := withPrice
        withoutPrice := totalLines - withPrice - estimated
        estimated := estimated
        expired := expired } }

/-! ### Explanations -/

/-- `_money`, as a number. -/
def money (value : ℚ) : ℚ := Numeric.roundScale 2 value

def explainMeal (meal : MealAssignment) (favorites : List String) (budget : BudgetDTO) (imputable : ℚ) :
    MealExplanation where
  mealType := meal.mealType
  date := meal.date
  title := meal.recipe.title
  markedFavorite := favorites.contains meal.recipe.recipeId
  totalMinutes := meal.recipe.preparationMinutes + meal.recipe.cookingMinutes
  imputableCost := money imputable
  currency := budget.currency
  reusesLeftovers := meal.recipe.leftoverReuse

/-- The dearest lines, five at most. -/
def offendingProducts (provision : Provision) : List OffendingProduct :=
  let priced := provision.groceryLines.insertionSort fun a b => b.subtotal ≤ a.subtotal
  ((priced.take 5).filter (0 < ·.subtotal)).map fun line =>
    { canonicalName := line.canonicalName
      productId := line.productId
      displayName := line.displayName
      subtotal := line.subtotal }

def sortedSet (tokens : List String) : List String := tokens.eraseDups.insertionSort (· ≤ ·)

def budgetConflict (budget : BudgetDTO) (minBudgetFound : ℚ) (nMeals : Nat) (softActive : List String) :
    List Conflict × List String × List SuggestedAction :=
  ([.budget (money budget.amount) budget.currency, .meals nMeals, .storeCatalogPrices],
    sortedSet softActive,
    [.raiseBudgetTo (money minBudgetFound) budget.currency, .reduceMeals, .changeStore, .acceptEstimatedPrices])

def missingCandidateConflict (mealTypes : List MealType) (hardTokens : List String) :
    List Conflict × List SuggestedAction :=
  (mealTypes.map .noCandidateFor ++ (sortedSet hardTokens).map .hardConstraint,
    [.addRecipes, .relaxSoftPreferences, .changeStore, .reduceMeals])

end CestaPlan.Engine
