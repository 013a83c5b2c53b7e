import CestaPlan.Library.Dict
import Mathlib.Data.Rat.Defs

/-! The plain data that goes into the engine and comes out of it (`cestaplan_engine/contracts.py`).

    A set of strings is the list of its members in the order in which Python iterates over it, whichever that
    is. A date is its proleptic ordinal. Money and quantities are rationals. -/

namespace CestaPlan.Engine

/-- `date.toordinal`. -/
abbrev Date := Int

inductive MealType where
  | breakfast | lunch | snack | dinner
deriving DecidableEq, Repr

inductive Weekday where
  | monday | tuesday | wednesday | thursday | friday | saturday | sunday
deriving DecidableEq, Repr

inductive Availability where
  | inStock | outOfStock | unknown
deriving DecidableEq, Repr

inductive Priority where
  | price | waste | nutrition
deriving DecidableEq, Repr

/-! ### Input -/

structure MemberDTO where
  memberAlias : String
  relativeServing : ℚ := 1
  allergens : List String := []
  strictAllergenCodes : List String := []
  hardRestrictions : List String := []
  softPreferences : List String := []
  rejectedRecipeIds : List String := []
deriving DecidableEq

/-- `_zero_means_no_limit`: a maximum of 0 or less is no limit. -/
def zeroMeansNoLimit (value : Option Int) : Option Int := value.filter (0 < ·)

theorem zeroMeansNoLimit_none : zeroMeansNoLimit none = none := rfl

theorem oneServing : 1 ≤ 1 := Nat.le_refl 1

/-- The validator has run on the maximum of a requirement. -/
structure MealRequirementDTO where
  mealType : MealType
  requestedCount : Nat
  defaultServings : Nat := 1
  selectedDates : Option (List Date) := none
  autoDistribute : Bool := true
  preferredDays : Option (List Weekday) := none
  maximumPreparationMinutes : Option Int := none
  requiresTupper : Bool := false
  reheatingAvailable : Bool := true
  servings_pos : 1 ≤ defaultServings := by first | exact oneServing | decide
  validated : zeroMeansNoLimit maximumPreparationMinutes = maximumPreparationMinutes := by
    first | exact zeroMeansNoLimit_none | decide
deriving DecidableEq

structure BudgetDTO where
  amount : ℚ
  currency : String := "EUR"
  strict : Bool := true
  maxMarginRatio : ℚ := 0
  priority : Priority := .waste
deriving DecidableEq

structure PackageOptionDTO where
  productId : String
  packageQuantity : ℚ
  packageUnit : String
  amount : ℚ
  availability : Availability := .unknown
  sourceType : String := "estimated"
  sourceName : String := ""
  observedAt : Option Date := none
  expiresAt : Option Date := none
  hasPrice : Bool := true
deriving DecidableEq

inductive Macro where
  | kcal | proteinG | carbsG | fatG
deriving DecidableEq, Repr

/-- Per 100 g of product; a macro that is absent was not declared. -/
structure NutritionDTO where
  kcal : Option ℚ := none
  proteinG : Option ℚ := none
  carbsG : Option ℚ := none
  fatG : Option ℚ := none
deriving DecidableEq

/-- `getattr(nutrition, macro)`; a target has the same fields. -/
def NutritionDTO.get (n : NutritionDTO) : Macro → Option ℚ
  | .kcal => n.kcal
  | .proteinG => n.proteinG
  | .carbsG => n.carbsG
  | .fatG => n.fatG

structure CatalogProductDTO where
  productId : String
  canonicalName : String
  displayName : String
  category : String := "uncategorized"
  packages : List PackageOptionDTO := []
  nutrition : Option NutritionDTO := none
  allergens : List String := []
deriving DecidableEq

structure RecipeIngredientDTO where
  canonicalName : String
  displayName : String
  quantity : ℚ
  unit : String
  optional : Bool := false
  substitutionGroup : Option String := none
  category : Option String := none
  allergenAssessed : Bool := true
deriving DecidableEq

structure CandidateRecipeDTO where
  recipeId : String
  title : String
  description : String := ""
  servings : Nat := 1
  mealTypes : List MealType := []
  cuisine : String := ""
  preferenceTags : List String := []
  ingredients : List RecipeIngredientDTO := []
  steps : List String := []
  preparationMinutes : Int := 0
  cookingMinutes : Int := 0
  requiredEquipment : List String := []
  leftoverReuse : Bool := false
  storageInstructions : Option String := none
  reheatingInstructions : Option String := none
  allergensDeclared : List String := []
  servings_pos : 1 ≤ servings := by first | exact oneServing | decide
deriving DecidableEq

structure PantryItemDTO where
  canonicalName : String
  quantity : ℚ
  unit : String
  expiresAt : Option Date := none
deriving DecidableEq

structure IngredientConversionDTO where
  canonicalName : String
  fromUnit : String
  toUnit : String
  factor : ℚ
deriving DecidableEq

structure ScoringWeights where
  waste : ℚ := 1
  repetition : ℚ := 12
  cost : ℚ := 3 / 2
  time : ℚ := 4 / 5
  nutritionDeviation : ℚ := 6 / 5
  soft : ℚ := 1
  pantry : ℚ := 1
  favorite : ℚ := 7 / 10
  rejected : ℚ := 1000000000
deriving DecidableEq

structure PlanInput where
  members : List MemberDTO
  mealRequirements : List MealRequirementDTO
  budget : BudgetDTO
  dateRange : Date × Date
  availableEquipment : List String := []
  catalog : List CatalogProductDTO := []
  candidates : List CandidateRecipeDTO := []
  pantry : List PantryItemDTO := []
  favorites : List String := []
  conversions : List IngredientConversionDTO := []
  weights : ScoringWeights := {}
  nutritionTarget : Option NutritionDTO := none
  seed : Int := 0
  asOf : Option Date := none

/-! ### Output -/

structure CostBreakdown where
  total : ℚ
  imputable : ℚ
  marginal : ℚ
deriving DecidableEq

/-- What `explain_meal` says of a meal; the text is put together from it. -/
structure MealExplanation where
  mealType : MealType
  date : Date
  title : String
  markedFavorite : Bool
  totalMinutes : Int
  imputableCost : ℚ
  currency : String
  reusesLeftovers : Bool
deriving DecidableEq

structure PlannedMealDTO where
  recipeId : String
  title : String
  date : Date
  mealType : MealType
  servings : Nat
  participants : List String
  cost : CostBreakdown
  nutrition : Option NutritionDTO
  nutritionComplete : Bool
  explanation : MealExplanation
deriving DecidableEq

structure GroceryLineDTO where
  canonicalName : String
  productId : Option String
  displayName : String
  category : String := "uncategorized"
  neededQuantity : ℚ
  pantryQuantity : ℚ := 0
  pendingQuantity : ℚ := 0
  packagesCount : Nat := 0
  packageQuantity : Option ℚ := none
  packageUnit : Option String := none
  packagePrice : Option ℚ := none
  purchasedQuantity : ℚ := 0
  usedQuantity : ℚ := 0
  leftover : ℚ := 0
  subtotal : ℚ := 0
  subtotalKnown : Bool := false
  availability : Availability := .unknown
  sourceType : String := "estimated"
  sourceName : String := ""
  observedAt : Option Date := none
  expired : Bool := false
deriving DecidableEq

inductive CoverageStatus where
  | complete | high | partly | insufficient | stale | none
deriving DecidableEq, Repr

structure CoverageCounts where
  withPrice : Nat := 0
  withoutPrice : Nat := 0
  estimated : Nat := 0
  expired : Nat := 0
deriving DecidableEq

structure CoverageDTO where
  priceCoverage : ℚ
  weightedPriceCoverage : ℚ
  status : CoverageStatus
  counts : CoverageCounts
deriving DecidableEq

structure CostTotal where
  known : ℚ
  estimated : ℚ
  total : ℚ
deriving DecidableEq

structure LeftoverDTO where
  canonicalName : String
  productId : Option String
  displayName : String
  quantity : ℚ
  unit : String
deriving DecidableEq

structure PantryUsedDTO where
  canonicalName : String
  quantity : ℚ
  unit : String
deriving DecidableEq

inductive MacroStatus where
  | met | under | over | unknown
deriving DecidableEq, Repr

structure MacroSummaryDTO where
  actualPerDay : Option ℚ := none
  targetPerDay : Option ℚ := none
  deviation : Option ℚ := none
  coverageRatio : Option ℚ := none
  status : MacroStatus := .unknown
deriving DecidableEq

structure NutritionSummaryDTO where
  days : Nat
  complete : Bool
  kcal : MacroSummaryDTO
  proteinG : MacroSummaryDTO
  carbsG : MacroSummaryDTO
  fatG : MacroSummaryDTO
deriving DecidableEq

/-- The warnings of a plan; each text is put together from what it names. -/
inductive PlanWarning where
  | noAllergenData (title : String)
  | cannotConvert (unit targetUnit canonicalName : String)
  | expiredPrices
  | lowPriceCoverage
  | noMealsRequested
deriving DecidableEq

structure PlanResult where
  plannedMeals : List PlannedMealDTO
  groceryLines : List GroceryLineDTO
  /-- Sorted by date. -/
  costPerDay : List (Date × ℚ)
  costTotal : CostTotal
  budgetDiff : ℚ
  leftovers : List LeftoverDTO
  pantryUsed : List PantryUsedDTO
  coverage : CoverageDTO
  nutritionSummary : Option NutritionSummaryDTO
  warnings : List PlanWarning
  explanations : List MealExplanation
  seed : Int

structure OffendingProduct where
  canonicalName : String
  productId : Option String
  displayName : String
  subtotal : ℚ
deriving DecidableEq

inductive Conflict where
  | budget (amount : ℚ) (currency : String)
  | meals (n : Nat)
  | storeCatalogPrices
  | noCandidateFor (mealType : MealType)
  | hardConstraint (token : String)
deriving DecidableEq

inductive SuggestedAction where
  | raiseBudgetTo (amount : ℚ) (currency : String)
  | reduceMeals | changeStore | acceptEstimatedPrices | addRecipes | relaxSoftPreferences
deriving DecidableEq

structure InfeasibleResult where
  minimalConflict : List Conflict
  minBudgetFound : Option ℚ := none
  offendingProducts : List OffendingProduct := []
  relaxableSoftConstraints : List String := []
  suggestedActions : List SuggestedAction := []
  warnings : List PlanWarning := []
  seed : Int := 0

inductive PlanOutcome where
  | completed (result : PlanResult)
  | infeasible (result : InfeasibleResult)

end CestaPlan.Engine
