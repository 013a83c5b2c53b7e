import CestaPlan.Engine.HardConstraints
import CestaPlan.Engine.Search

/-! What `generate_plan` returns: the plan of the assignment that the search settles on, and that every meal of it
    satisfies the hard constraints. -/

namespace CestaPlan.Engine
open PlanOptimizer

namespace PlanInput
variable (py : Runtime) (inp : PlanInput)

/-- An assignment of feasible candidates to the slots. -/
def Assigns (recipes : List CandidateRecipeDTO) : Prop :=
  List.Forall₂ (fun slot recipe => recipe ∈ inp.feasible py slot) inp.slots recipes

instance (recipes : List CandidateRecipeDTO) : Decidable (inp.Assigns py recipes) :=
  inferInstanceAs (Decidable (List.Forall₂ _ _ _))

def provisionOf (recipes : List CandidateRecipeDTO) : Provision := (inp.optimizer py).provision py inp.slots recipes

def planCost (recipes : List CandidateRecipeDTO) : ℚ := (inp.provisionOf py recipes).costTotal py

def Settles (recipes : List CandidateRecipeDTO) : Prop :=
  (inp.optimizer py).Selects py (openingsOf inp.slots (inp.feasible py)) (py.random inp.seed) recipes

end PlanInput

section Outcome
variable {py : Runtime} {inp : PlanInput}

/-- With a slot, and candidates for each slot, the plan is the one that the search settles on, or the request is over
    budget. -/
theorem generatePlan_of_candidates (hs : inp.slots ≠ []) (hc : ∀ slot ∈ inp.slots, inp.feasible py slot ≠ []) :
    (∃ recipes, inp.Assigns py recipes ∧ inp.Settles py recipes ∧
      generatePlan py inp = .completed (inp.buildResult py recipes (inp.provisionOf py recipes))) ∨
    (∃ prov cheapest, generatePlan py inp = .infeasible (inp.overBudgetResult py prov (some cheapest)) ∧
      (∀ recipes, ¬inp.Settles py recipes) ∧
      ∃ recipes, inp.Assigns py recipes ∧ cheapest.cost = inp.planCost py recipes) := by
  rcases optimize_cases (o := inp.optimizer py) (py.random inp.seed) hc with
    ⟨recipes, score, cheapest, hopt, hassigns, hsel⟩ | ⟨chosen, prov, score, cheapest, hopt, hsel, hcheapest⟩
  · refine .inl ⟨recipes, hassigns, hsel, ?_⟩
    rw [generatePlan, if_neg hs, hopt]
    rfl
  · refine .inr ⟨prov, cheapest, ?_, hsel, hcheapest⟩
    rw [generatePlan, if_neg hs, hopt]

theorem generatePlan_of_missing {slot : MealSlot} (hs : slot ∈ inp.slots) (hnil : inp.feasible py slot = []) :
    generatePlan py inp = .infeasible (inp.missingResult py (missingMealTypes inp.slots (inp.feasible py))) := by
  rw [generatePlan, if_neg (List.ne_nil_of_mem hs), optimize_missing hs hnil]

theorem PlanInput.Assigns.feasible_ne_nil {recipes : List CandidateRecipeDTO} (h : inp.Assigns py recipes) :
    ∀ slot ∈ inp.slots, inp.feasible py slot ≠ [] := by
  unfold PlanInput.Assigns at h
  generalize inp.slots = slots at h
  induction h with
  | nil => simp
  | cons hmem _ ih => exact List.forall_mem_cons.mpr ⟨List.ne_nil_of_mem hmem, ih⟩

theorem generatePlan_completed_iff {r : PlanResult} : generatePlan py inp = .completed r ↔
    (inp.slots = [] ∧ r = inp.emptyPlan py) ∨
      (inp.slots ≠ [] ∧ ∃ recipes, inp.Assigns py recipes ∧ inp.Settles py recipes ∧
        r = inp.buildResult py recipes (inp.provisionOf py recipes)) := by
  by_cases hs : inp.slots = []
  · rw [generatePlan, if_pos hs, PlanOutcome.completed.injEq]
    simp [hs, eq_comm]
  · simp only [hs, false_and, false_or, ne_eq, not_false_eq_true, true_and]
    by_cases hc : ∀ slot ∈ inp.slots, inp.feasible py slot ≠ []
    · rcases generatePlan_of_candidates hs hc with ⟨recipes, hassigns, hsettles, heq⟩ | ⟨prov, cheapest, heq, hno, -⟩
      · rw [heq, PlanOutcome.completed.injEq]
        constructor
        · rintro rfl
          exact ⟨recipes, hassigns, hsettles, rfl⟩
        · rintro ⟨recipes', -, hsettles', rfl⟩
          rw [hsettles.unique hsettles']
      · rw [heq]
        simp only [reduceCtorEq, false_iff]
        rintro ⟨recipes, -, hsettles, -⟩
        exact hno recipes hsettles
    · obtain ⟨slot, hslot, hnil⟩ := by simpa using hc
      rw [generatePlan_of_missing hslot hnil]
      simp only [reduceCtorEq, false_iff]
      rintro ⟨recipes, hassigns, -⟩
      exact hc hassigns.feasible_ne_nil

end Outcome

/-! ### The meals -/

structure Serves (slot : MealSlot) (recipe : CandidateRecipeDTO) (meal : PlannedMealDTO) : Prop where
  recipeId : meal.recipeId = recipe.recipeId
  title : meal.title = recipe.title
  date : meal.date = slot.date
  mealType : meal.mealType = slot.mealType
  servings : meal.servings = slot.servings

section Meals
variable {py : Runtime} {inp : PlanInput}

theorem forall₂_plannedMeals {R : MealSlot → CandidateRecipeDTO → Prop} {slots : List MealSlot}
    {recipes : List CandidateRecipeDTO} (h : List.Forall₂ R slots recipes) (participants : List String)
    (all : List MealAssignment) (prov : Provision) (k : ℕ) :
    List.Forall₂ (fun slot meal => ∃ recipe, R slot recipe ∧ Serves slot recipe meal) slots
      (((buildMeals participants slots recipes).zipIdx k).map fun (meal, i) => inp.plannedMeal py all prov meal i) := by
  induction h generalizing k with
  | nil => exact .nil
  | cons hr _ ih => exact .cons ⟨_, hr, rfl, rfl, rfl, rfl, rfl⟩ (ih (k + 1))

/-- Every plan has one meal for each slot, in the order of the slots, and its recipe is a candidate that satisfies
    all hard constraints there. -/
theorem plannedMeals_hardValid {r : PlanResult} (h : generatePlan py inp = .completed r) :
    List.Forall₂ (fun slot meal => ∃ recipe ∈ inp.candidates, HardValid py inp slot recipe ∧ Serves slot recipe meal)
      inp.slots r.plannedMeals := by
  rcases generatePlan_completed_iff.mp h with ⟨hs, rfl⟩ | ⟨-, recipes, hassigns, -, rfl⟩
  · rw [hs]
    exact .nil
  · refine (forall₂_plannedMeals hassigns _ _ _ 0).imp ?_
    rintro slot meal ⟨recipe, hmem, hserves⟩
    obtain ⟨hcand, hvalid⟩ := mem_feasible_iff.mp hmem
    exact ⟨recipe, hcand, hvalid, hserves⟩

end Meals

theorem exists_completed {outcome : PlanOutcome} (p : PlanResult → Bool) (h : outcome.result?.any p = true) :
    ∃ r, outcome = .completed r ∧ p r = true := by
  cases outcome with
  | completed r => exact ⟨r, rfl, h⟩
  | infeasible r => cases h

/-- Two lunches for a vegan and for someone with an anaphylaxis to peanuts, one of them in ten minutes. -/
def twoLunches : PlanInput where
  members :=
    [{ memberAlias := "Ana", hardRestrictions := ["Vegana"] },
     { memberAlias := "Luis", allergens := ["cacahuetes"], strictAllergenCodes := ["cacahuetes"] }]
  mealRequirements :=
    [{ mealType := .lunch, requestedCount := 1 },
     { mealType := .lunch, requestedCount := 1, maximumPreparationMinutes := some 10 }]
  budget := { amount := 5 }
  dateRange := (739000, 739001)
  availableEquipment := ["horno"]
  catalog :=
    [{ productId := "p1", canonicalName := "arroz", displayName := "Arroz"
       packages := [{ productId := "p1", packageQuantity := 500, packageUnit := "g", amount := 1 }] },
     { productId := "p2", canonicalName := "salsa", displayName := "Salsa", allergens := ["peanuts"] }]
  candidates :=
    [{ recipeId := "r1", title := "Arroz al horno", mealTypes := [.lunch], preparationMinutes := 5, cookingMinutes := 30
       requiredEquipment := ["horno"]
       ingredients := [{ canonicalName := "arroz", displayName := "Arroz", quantity := 100, unit := "g" }] },
     { recipeId := "r2", title := "Arroz blanco", mealTypes := [.lunch], preparationMinutes := 10
       ingredients := [{ canonicalName := "arroz", displayName := "Arroz", quantity := 80, unit := "g" }] },
     { recipeId := "r3", title := "Arroz con salsa", mealTypes := [.lunch]
       ingredients := [{ canonicalName := "salsa", displayName := "Salsa", quantity := 50, unit := "g" }] }]

theorem plannedMeals_hardValid_twoLunches :
    ∃ r, generatePlan (Runtime.replay [1, 1, 0, 1, 1]) twoLunches = .completed r ∧
      List.Forall₂ (fun slot meal => ∃ recipe ∈ twoLunches.candidates,
        HardValid (Runtime.replay [1, 1, 0, 1, 1]) twoLunches slot recipe ∧ Serves slot recipe meal)
        twoLunches.slots r.plannedMeals := by
  have hplan : ((generatePlan (Runtime.replay [1, 1, 0, 1, 1]) twoLunches).result?.any fun _ => true) = true := by
    decide +kernel
  obtain ⟨r, hr, -⟩ := exists_completed _ hplan
  exact ⟨r, hr, plannedMeals_hardValid hr⟩

end CestaPlan.Engine
