import CestaPlan.Engine.Planning

/-! The budget as a hard constraint: when the search finds a plan that fits. -/

namespace CestaPlan.Engine
open PlanOptimizer

section Budget
variable (py : Runtime) (inp : PlanInput)

/-- The amount, with the margin if the budget is not strict. -/
def PlanInput.budgetLimit : ℚ := (inp.optimizer py).budgetLimit py

/-- Some assignment of feasible candidates fits the budget. -/
def PlanInput.Affordable : Prop := ∃ recipes, inp.Assigns py recipes ∧ inp.planCost py recipes ≤ inp.budgetLimit py

/-- A plan within the limit exactly when some assignment fits it; if none does, a budget that is found above it. -/
structure BudgetContract : Prop where
  planned_iff : (∃ r, generatePlan py inp = .completed r ∧ r.costTotal.total ≤ inp.budgetLimit py) ↔ inp.Affordable py
  refused : ¬inp.Affordable py →
    ∃ r least, generatePlan py inp = .infeasible r ∧ r.minBudgetFound = some least ∧ inp.budgetLimit py < least

variable {py inp}

theorem PlanInput.Settles.cost_le {recipes : List CandidateRecipeDTO}
    (hc : ∀ slot ∈ inp.slots, inp.feasible py slot ≠ []) (h : inp.Settles py recipes) : inp.planCost py recipes ≤ inp.budgetLimit py := by
  have hle := Selects.cost_le h
  rwa [map_slot_openingsOf hc] at hle

end Budget

/-! ### A package that two meals could share -/

def bread : CandidateRecipeDTO where
  recipeId := "r2"
  title := "Pan"
  mealTypes := [.breakfast]
  ingredients := [{ canonicalName := "harina", displayName := "Harina", quantity := 500, unit := "g" }]

def pizza : CandidateRecipeDTO where
  recipeId := "r4"
  title := "Pizza"
  mealTypes := [.lunch]
  ingredients := [{ canonicalName := "harina", displayName := "Harina", quantity := 500, unit := "g" }]

/-- A breakfast and a lunch within 5. The fruits cost 3 each and a bag of flour costs 5. -/
def sharedBag : PlanInput where
  members := [{ memberAlias := "Ana" }]
  mealRequirements := [{ mealType := .breakfast, requestedCount := 1 }, { mealType := .lunch, requestedCount := 1 }]
  budget := { amount := 5 }
  dateRange := (739000, 739000)
  catalog :=
    [{ productId := "p1", canonicalName := "mango", displayName := "Mango"
       packages := [{ productId := "p1", packageQuantity := 1, packageUnit := "ud", amount := 3 }] },
     { productId := "p2", canonicalName := "papaya", displayName := "Papaya"
       packages := [{ productId := "p2", packageQuantity := 1, packageUnit := "ud", amount := 3 }] },
     { productId := "p3", canonicalName := "harina", displayName := "Harina"
       packages := [{ productId := "p3", packageQuantity := 1000, packageUnit := "g", amount := 5 }] }]
  candidates :=
    [{ recipeId := "r1", title := "Mango", mealTypes := [.breakfast]
       ingredients := [{ canonicalName := "mango", displayName := "Mango", quantity := 1, unit := "ud" }] },
     bread,
     { recipeId := "r3", title := "Papaya", mealTypes := [.lunch]
       ingredients := [{ canonicalName := "papaya", displayName := "Papaya", quantity := 1, unit := "ud" }] },
     pizza]

end CestaPlan.Engine
