import CestaPlan.Engine.Optimizer
import CestaPlan.Engine.Reporting
import CestaPlan.Engine.Validators

/-! The entry point of the engine (`cestaplan_engine/facade.py`). -/

namespace CestaPlan.Engine

def nutritionTolerance : ℚ := 1 / 20

def addToGroup (groups : Dict String (List String)) (ing : RecipeIngredientDTO) : Dict String (List String) :=
  match ing.substitutionGroup with
  | none => groups
  | some group =>
    if group ≠ "" ∧ ing.canonicalName ∉ groups.getD group [] then
      groups.set group (groups.getD group [] ++ [ing.canonicalName])
    else groups

def substitutionGroups (candidates : List CandidateRecipeDTO) : Dict String (List String) :=
  (candidates.flatMap (·.ingredients)).foldl addToGroup Dict.empty

def comensalWeight (py : Runtime) (members : List MemberDTO) : ℚ :=
  let total := py.sum (members.map (·.relativeServing))
  if 0 < total then total else 1

def softTokens (members : List MemberDTO) : List String := sortedSet (members.flatMap (·.softPreferences))

def activeHardTokens (py : Runtime) (members : List MemberDTO) : List String :=
  sortedSet (members.flatMap fun m => m.allergens.map py.lower ++ m.hardRestrictions.map py.lower)

/-! ### The nutrition summary -/

section Summary
variable (py : Runtime)

def macroSummary (actualPerDay : ℚ) (target : Option ℚ) : MacroSummaryDTO :=
  match target.filter (0 < ·) with
  | none => { actualPerDay := some actualPerDay, status := .unknown }
  | some goal =>
    let coverageRatio := py.div actualPerDay goal
    { actualPerDay := some actualPerDay
      targetPerDay := some goal
      deviation := some (py.sub actualPerDay goal)
      coverageRatio := some coverageRatio
      status :=
        if py.abs (py.sub coverageRatio 1) ≤ nutritionTolerance then .met
        else if coverageRatio < 1 then .under
        else .over }

def buildNutritionSummary (target : Option NutritionDTO) (perServingTotals : Macro → ℚ) (complete : Bool)
    (numDays : Nat) (eaters : ℚ) : Option NutritionSummaryDTO :=
  target.map fun target =>
    let summary := fun m => macroSummary py (py.div (py.mul (perServingTotals m) eaters) numDays) (target.get m)
    { days := numDays
      complete := complete
      kcal := summary .kcal
      proteinG := summary .proteinG
      carbsG := summary .carbsG
      fatG := summary .fatG }

end Summary

namespace PlanInput
variable (py : Runtime) (inp : PlanInput)

/-! ### The parts that the input determines -/

def converter : Factors := unitConverter py inp.conversions

def matcher : ProductMatcher := productMatcher inp.catalog (substitutionGroups inp.candidates)

def provisioner : Provisioner where
  matcher := inp.matcher
  pantry := pantryCalculator inp.pantry (inp.converter py) inp.asOf
  weights := inp.weights
  factors := inp.converter py
  asOf := inp.asOf

def slots : List MealSlot := schedule inp.mealRequirements inp.dateRange

def nutritionCalc : NutritionCalculator where
  matcher := inp.matcher
  factors := inp.converter py

def numDays : Nat := (inp.slots.map (·.date)).dedup.length

/-! ### The hard constraints -/

def hardValid (recipe : CandidateRecipeDTO) : Bool :=
  (validateAllergens py inp.catalog recipe inp.members).valid &&
    (validateDiet py inp.catalog recipe inp.members).valid &&
    recipe.requiredEquipment.all inp.availableEquipment.contains

def validRecipes : List CandidateRecipeDTO := inp.candidates.filter (inp.hardValid py)

/-- What a later recipe of the same id counts replaces what an earlier one did. -/
def softPenalty : Dict String Nat :=
  (inp.validRecipes py).foldl (fun d recipe =>
    d.set recipe.recipeId (validateDiet py inp.catalog recipe inp.members).softViolations.length) Dict.empty

def allergenWarnings : List PlanWarning :=
  (inp.candidates.flatMap fun recipe => (validateAllergens py inp.catalog recipe inp.members).warnings).eraseDups

def suits (slot : MealSlot) (recipe : CandidateRecipeDTO) : Bool :=
  recipe.mealTypes.contains slot.mealType &&
    slot.maximumPreparationMinutes.all fun most => decide (recipe.preparationMinutes + recipe.cookingMinutes ≤ most)

/-- `feasible`, of the slot itself: no two slots have one index. -/
def feasible (slot : MealSlot) : List CandidateRecipeDTO := (inp.validRecipes py).filter (suits slot)

def optimizer : PlanOptimizer where
  provisioner := inp.provisioner py
  weights := inp.weights
  budget := inp.budget
  favorites := inp.favorites
  rejectedRecipeIds := inp.members.flatMap (·.rejectedRecipeIds)
  softPenalty := inp.softPenalty py
  nutritionTarget := inp.nutritionTarget
  nutritionCalc := inp.nutritionCalc py
  numDays := inp.numDays
  comensalWeight := comensalWeight py inp.members

/-! ### The result -/

def emptyPlan : PlanResult where
  plannedMeals := []
  groceryLines := []
  costPerDay := []
  costTotal := { known := 0, estimated := 0, total := 0 }
  budgetDiff := inp.budget.amount
  leftovers := []
  pantryUsed := []
  coverage := computeCoverage py []
  nutritionSummary := none
  warnings := [.noMealsRequested]
  explanations := []
  seed := inp.seed

/-- What the first `n` meals cost. -/
def costOfFirst (meals : List MealAssignment) : Nat → ℚ
  | 0 => 0
  | n + 1 => ((inp.provisioner py).provision py (meals.take (n + 1))).costTotal py

def imputableOf (prov : Provision) (meal : MealAssignment) : ℚ := prov.imputableByMeal.getD meal.slotIndex 0

def explanation (prov : Provision) (meal : MealAssignment) : MealExplanation :=
  explainMeal meal inp.favorites inp.budget (imputableOf prov meal)

/-- The meal at position `i`, with the cost that it adds to the ones before. -/
def plannedMeal (meals : List MealAssignment) (prov : Provision) (meal : MealAssignment) (i : Nat) :
    PlannedMealDTO where
  recipeId := meal.recipe.recipeId
  title := meal.recipe.title
  date := meal.date
  mealType := meal.mealType
  servings := meal.servings
  participants := meal.participants
  cost :=
    { total := imputableOf prov meal
      imputable := imputableOf prov meal
      marginal := py.sub (inp.costOfFirst py meals (i + 1)) (inp.costOfFirst py meals i) }
  nutrition := ((inp.nutritionCalc py).forMeal py meal).1
  nutritionComplete := ((inp.nutritionCalc py).forMeal py meal).2
  explanation := inp.explanation prov meal

def costPerDay (meals : List MealAssignment) (prov : Provision) : List (Date × ℚ) :=
  let perDay := meals.foldl (fun (d : Dict Date ℚ) meal =>
    d.set meal.date (py.add (d.getD meal.date 0) (imputableOf prov meal))) Dict.empty
  perDay.entries.insertionSort fun a b => a.1 ≤ b.1

def coverageWarnings (coverage : CoverageDTO) : List PlanWarning :=
  (if coverage.status = .stale then [.expiredPrices] else []) ++
    if coverage.status = .insufficient ∨ coverage.status = .none then [.lowPriceCoverage] else []

def buildResult (assignment : List CandidateRecipeDTO) (prov : Provision) : PlanResult :=
  let meals := buildMeals (inp.members.map (·.memberAlias)) inp.slots assignment
  let coverage := computeCoverage py prov.groceryLines
  let nutrition := (inp.nutritionCalc py).forMealsPerServing py meals
  { plannedMeals := meals.zipIdx.map fun (meal, i) => inp.plannedMeal py meals prov meal i
    groceryLines := prov.groceryLines
    costPerDay := costPerDay py meals prov
    costTotal := { known := prov.costKnown, estimated := prov.costEstimated, total := prov.costTotal py }
    budgetDiff := py.sub inp.budget.amount (prov.costTotal py)
    leftovers := prov.leftovers
    pantryUsed := prov.pantryUsed
    coverage := coverage
    nutritionSummary := buildNutritionSummary py inp.nutritionTarget nutrition.1 nutrition.2
      (if inp.numDays = 0 then 1 else inp.numDays) (comensalWeight py inp.members)
    warnings := inp.allergenWarnings py ++ coverageWarnings coverage ++ prov.warnings
    explanations := meals.map (inp.explanation prov)
    seed := inp.seed }

def missingResult (mealTypes : List MealType) : InfeasibleResult :=
  let (conflict, actions) := missingCandidateConflict mealTypes (activeHardTokens py inp.members)
  { minimalConflict := conflict
    suggestedActions := actions
    relaxableSoftConstraints := softTokens inp.members
    warnings := inp.allergenWarnings py
    seed := inp.seed }

def overBudgetResult (prov : Provision) (cheapest : Option Cheapest) : InfeasibleResult :=
  let cheapestCost := (cheapest.map (·.cost)).getD 0
  let cheapestProv := (cheapest.map (·.provision)).getD prov
  let (conflict, relaxable, actions) :=
    budgetConflict inp.budget cheapestCost inp.slots.length (softTokens inp.members)
  { minimalConflict := conflict
    minBudgetFound := some cheapestCost
    offendingProducts := offendingProducts cheapestProv
    relaxableSoftConstraints := relaxable
    suggestedActions := actions
    warnings := inp.allergenWarnings py
    seed := inp.seed }

end PlanInput

def generatePlan (py : Runtime) (inp : PlanInput) : PlanOutcome :=
  if inp.slots = [] then .completed (inp.emptyPlan py)
  else match (inp.optimizer py).optimize py inp.slots (inp.feasible py) (py.random inp.seed) with
    | .missing mealTypes => .infeasible (inp.missingResult py mealTypes)
    | .found assignment prov _ false _ => .completed (inp.buildResult py assignment prov)
    | .found _ prov _ true cheapest => .infeasible (inp.overBudgetResult py prov cheapest)

def PlanOutcome.result? : PlanOutcome → Option PlanResult
  | .completed r => some r
  | .infeasible _ => none

end CestaPlan.Engine
