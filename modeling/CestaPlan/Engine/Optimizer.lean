import CestaPlan.Engine.Reporting
import Mathlib.Data.List.MinMax
import Mathlib.Data.Prod.Lex

/-! The search for a plan (`cestaplan_engine/optimizer.py`): a greedy seed, then at most four passes over the
    slots in which the first option that improves the plan is taken. -/

namespace CestaPlan.Engine

def budgetPenalty : ℚ := 1000000

def maxPasses : Nat := 4

/-- A slot that some candidate can fill, with the candidates. -/
structure Opening where
  slot : MealSlot
  options : List CandidateRecipeDTO
  options_ne : options ≠ []

structure PlanOptimizer where
  provisioner : Provisioner
  weights : ScoringWeights
  budget : BudgetDTO
  favorites : List String
  rejectedRecipeIds : List String
  softPenalty : Dict String Nat
  nutritionTarget : Option NutritionDTO
  nutritionCalc : NutritionCalculator
  numDays : Nat
  comensalWeight : ℚ

structure Cheapest where
  cost : ℚ
  assignment : List CandidateRecipeDTO
  provision : Provision

/-- The local variables of `_local_search`, with the random source and the cheapest plan of the optimizer. -/
structure Walk (py : Runtime) where
  chosen : List CandidateRecipeDTO
  bestScore : ℚ
  bestProv : Provision
  rng : py.RandomState
  cheapest : Option Cheapest

inductive OptimizerOutcome where
  | missing (mealTypes : List MealType)
  | found (assignment : List CandidateRecipeDTO) (provision : Provision) (score : ℚ) (overBudget : Bool)
      (cheapest : Option Cheapest)

def buildMeals (participants : List String) (slots : List MealSlot) (recipes : List CandidateRecipeDTO) :
    List MealAssignment :=
  (slots.zip recipes).map fun (slot, recipe) =>
    { slotIndex := slot.index
      date := slot.date
      mealType := slot.mealType
      recipe := recipe
      servings := slot.servings
      participants := participants }

namespace PlanOptimizer
variable (py : Runtime) (o : PlanOptimizer)

/-! ### Scoring -/

def budgetLimit : ℚ :=
  if o.budget.strict then o.budget.amount else py.mul o.budget.amount (py.add 1 o.budget.maxMarginRatio)

def days : Nat := if 0 < o.numDays then o.numDays else 1

def eaters : ℚ := if 0 < o.comensalWeight then o.comensalWeight else 1

def nutritionPenalty (slots : List MealSlot) (recipes : List CandidateRecipeDTO) : ℚ :=
  match o.nutritionTarget with
  | none => 0
  | some target =>
    let totals := (o.nutritionCalc.forMealsPerServing py (buildMeals [] slots recipes)).1
    macros.foldl (fun penalty m =>
      match target.get m with
      | none => penalty
      | some goal =>
        if goal ≤ 0 then penalty
        else
          let actualPerDay := py.div (py.mul (totals m) o.eaters) o.days
          py.add penalty (py.div (py.abs (py.sub actualPerDay goal)) goal)) 0

def wasteValue (prov : Provision) : ℚ :=
  prov.groceryLines.foldl (fun waste line =>
    if 0 < line.purchasedQuantity ∧ 0 < line.subtotal then
      py.add waste (py.div (py.mul line.subtotal line.leftover) line.purchasedQuantity)
    else waste) 0

/-- The j-th reuse of a recipe costs j. -/
def repetition (recipes : List CandidateRecipeDTO) : Nat :=
  let ids := recipes.map (·.recipeId)
  (ids.dedup.map fun id => ids.count id * (ids.count id - 1) / 2).sum

def timeHours (recipes : List CandidateRecipeDTO) : ℚ :=
  py.div ((recipes.map fun r => r.preparationMinutes + r.cookingMinutes).sum : Int) 60

def score (recipes : List CandidateRecipeDTO) (prov : Provision) (slots : List MealSlot) : ℚ :=
  let w := o.weights
  let costTotal := prov.costTotal py
  let limit := o.budgetLimit py
  let pantryBonus := prov.groceryLines.countP fun line => decide (0 < line.pantryQuantity)
  let favoriteBonus := recipes.countP (o.favorites.contains ·.recipeId)
  let rejected := recipes.countP (o.rejectedRecipeIds.contains ·.recipeId)
  let soft := (recipes.map fun r => o.softPenalty.getD r.recipeId 0).sum
  let score := py.add (py.mul w.waste (wasteValue py prov)) (py.mul w.repetition (repetition recipes))
  let score := py.add score (py.mul w.time (timeHours py recipes))
  let score := py.add score (py.mul w.soft soft)
  let score := py.sub score (py.mul w.pantry pantryBonus)
  let score := py.sub score (py.mul w.favorite favoriteBonus)
  let score := py.add score (py.mul w.rejected rejected)
  let score := py.add score (py.mul w.nutritionDeviation (o.nutritionPenalty py slots recipes))
  let score := if o.budget.priority = .price then py.add score (py.mul w.cost costTotal) else score
  -- Over the limit the cost outweighs nearly everything else.
  if limit < costTotal then py.add score (py.mul budgetPenalty (py.sub costTotal limit)) else score

def provision (slots : List MealSlot) (recipes : List CandidateRecipeDTO) : Provision :=
  o.provisioner.provision py (buildMeals [] slots recipes)

def trackCheapest (cheapest : Option Cheapest) (recipes : List CandidateRecipeDTO) (prov : Provision) :
    Option Cheapest :=
  let seen : Cheapest := { cost := prov.costTotal py, assignment := recipes, provision := prov }
  match cheapest with
  | none => some seen
  | some c => if seen.cost < c.cost then some seen else some c

/-! ### The search -/

def ordered (options : List CandidateRecipeDTO) (rng : py.RandomState) : List CandidateRecipeDTO × py.RandomState :=
  py.shuffle (options.insertionSort fun a b => a.recipeId ≤ b.recipeId) rng

theorem ordered_perm (options : List CandidateRecipeDTO) (rng : py.RandomState) :
    (ordered py options rng).1.Perm options :=
  (py.shuffle_perm _ rng).trans (List.perm_insertionSort _ options)

/-- The key by which `_greedy` compares what comes after the recipes chosen so far. -/
def greedyKey (costOnly : Bool) (slots : List MealSlot) (chosen : List CandidateRecipeDTO)
    (recipe : CandidateRecipeDTO) : ℚ ×ₗ String :=
  let trial := chosen ++ [recipe]
  let prov := o.provision py slots trial
  toLex (if costOnly then prov.costTotal py else o.score py trial prov slots, recipe.recipeId)

theorem argmin_isSome (opening : Opening) (key : CandidateRecipeDTO → ℚ ×ₗ String) (rng : py.RandomState) :
    ((ordered py opening.options rng).1.argmin key).isSome := by
  rw [Option.isSome_iff_ne_none, ne_eq, List.argmin_eq_none]
  exact fun h => opening.options_ne ((h ▸ ordered_perm py opening.options rng).nil_eq.symm)

/-- `_greedy`, with the slots `before` filled by the recipes `chosen`. -/
def greedy (costOnly : Bool) :
    List MealSlot → List CandidateRecipeDTO → List Opening → py.RandomState →
      List CandidateRecipeDTO × py.RandomState
  | _, chosen, [], rng => (chosen, rng)
  | before, chosen, opening :: rest, rng =>
    let slots := before ++ [opening.slot]
    let best := ((ordered py opening.options rng).1.argmin (o.greedyKey py costOnly slots chosen)).get
      (argmin_isSome py opening _ rng)
    greedy costOnly slots (chosen ++ [best]) rest (ordered py opening.options rng).2

/-- The options for one slot in turn, up to the first that is accepted; whether there was one. -/
def trySwap (slots : List MealSlot) (i : Nat) (current : CandidateRecipeDTO) :
    List CandidateRecipeDTO → Walk py → Walk py × Bool
  | [], w => (w, false)
  | recipe :: rest, w =>
    if recipe.recipeId = current.recipeId then trySwap slots i current rest w
    else
      let trial := w.chosen.set i recipe
      let tprov := o.provision py slots trial
      let tscore := o.score py trial tprov slots
      let w := { w with cheapest := trackCheapest py w.cheapest trial tprov }
      if toLex (tscore, recipe.recipeId) < toLex (w.bestScore, current.recipeId) then
        ({ w with chosen := trial, bestScore := tscore, bestProv := tprov }, true)
      else trySwap slots i current rest w

def visit (slots : List MealSlot) (state : Walk py × Bool) (place : Opening × Nat) : Walk py × Bool :=
  match state.1.chosen[place.2]? with
  | none => state
  | some current =>
    let (options, rng) := ordered py place.1.options state.1.rng
    let (w, found) := o.trySwap py slots place.2 current options { state.1 with rng := rng }
    (w, state.2 || found)

def pass (openings : List Opening) (w : Walk py) : Walk py × Bool :=
  openings.zipIdx.foldl (o.visit py (openings.map (·.slot))) (w, false)

/-- At most so many passes, up to the first without an improvement. -/
def passes (openings : List Opening) : Nat → Walk py → Walk py
  | 0, w => w
  | n + 1, w =>
    let (w, improved) := o.pass py openings w
    if improved then passes openings n w else w

def startWalk (slots : List MealSlot) (seed : List CandidateRecipeDTO × py.RandomState)
    (cheapest : Option Cheapest) : Walk py :=
  let prov := o.provision py slots seed.1
  { chosen := seed.1
    bestScore := o.score py seed.1 prov slots
    bestProv := prov
    rng := seed.2
    cheapest := trackCheapest py cheapest seed.1 prov }

def localSearch (openings : List Opening) (seed : List CandidateRecipeDTO × py.RandomState)
    (cheapest : Option Cheapest) : Walk py :=
  o.passes py openings maxPasses (o.startWalk py (openings.map (·.slot)) seed cheapest)

def missingMealTypes (slots : List MealSlot) (feasible : MealSlot → List CandidateRecipeDTO) : List MealType :=
  let missing := (slots.filter (feasible · = [])).map (·.mealType)
  [.breakfast, .dinner, .lunch, .snack].filter missing.contains

def openingsOf (slots : List MealSlot) (feasible : MealSlot → List CandidateRecipeDTO) : List Opening :=
  slots.filterMap fun slot =>
    if h : feasible slot ≠ [] then some { slot := slot, options := feasible slot, options_ne := h } else none

def varietyWalk (openings : List Opening) (rng : py.RandomState) : Walk py :=
  o.localSearch py openings (o.greedy py false [] [] openings rng) none

/-- The search seeded by the cheapest plan, after the first one. -/
def costWalk (openings : List Opening) (w : Walk py) : Walk py :=
  o.localSearch py openings (o.greedy py true [] [] openings w.rng) w.cheapest

def optimize (slots : List MealSlot) (feasible : MealSlot → List CandidateRecipeDTO) (rng : py.RandomState) :
    OptimizerOutcome :=
  if missingMealTypes slots feasible ≠ [] then .missing (missingMealTypes slots feasible)
  else
    let openings := openingsOf slots feasible
    let limit := o.budgetLimit py
    let walk := o.varietyWalk py openings rng
    if limit < walk.bestProv.costTotal py then
      let fit := o.costWalk py openings walk
      if fit.bestProv.costTotal py ≤ limit then
        .found fit.chosen fit.bestProv fit.bestScore false fit.cheapest
      else .found walk.chosen walk.bestProv walk.bestScore true fit.cheapest
    else .found walk.chosen walk.bestProv walk.bestScore false walk.cheapest

end PlanOptimizer
end CestaPlan.Engine
