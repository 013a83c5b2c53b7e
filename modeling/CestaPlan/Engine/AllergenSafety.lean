import CestaPlan.Engine.GroceryLines
import CestaPlan.Engine.Planning

/-! Allergens in what is bought. The validator judges a recipe by the names of its ingredients; which products are
    bought is decided by the matcher. -/

namespace CestaPlan.Engine
open PlanOptimizer

section Safety
variable (py : Runtime) (inp : PlanInput)

/-- No member is allergic to the product. -/
def SafeProduct (product : CatalogProductDTO) : Prop :=
  ∀ m ∈ inp.members, ∀ code ∈ canonAllergens py m.allergens, code ∉ canonAllergens py product.allergens

/-- In every plan, all products that the lines name are safe. -/
def AllergenContract : Prop :=
  ∀ r, generatePlan py inp = .completed r → ∀ line ∈ r.groceryLines, ∀ product ∈ inp.catalog,
    line.productId = some product.productId → SafeProduct py inp product

def PlanInput.mealsOf (recipes : List CandidateRecipeDTO) : List MealAssignment := buildMeals [] inp.slots recipes

variable {py inp}

theorem PlanInput.Assigns.mem_mealsOf {recipes : List CandidateRecipeDTO} (h : inp.Assigns py recipes)
    {meal : MealAssignment} (hmeal : meal ∈ inp.mealsOf recipes) :
    ∃ slot ∈ inp.slots, meal.recipe ∈ inp.feasible py slot := by
  obtain ⟨p, hp, rfl⟩ := List.mem_map.mp hmeal
  exact ⟨p.1, (List.of_mem_zip hp).1, List.forall₂_zip h hp⟩

theorem safeProduct_of_name {slot : MealSlot} {recipe : CandidateRecipeDTO} (hr : recipe ∈ inp.feasible py slot)
    {ing : RecipeIngredientDTO} (hing : ing ∈ recipe.ingredients) {product : CatalogProductDTO}
    (hp : product ∈ inp.catalog) (hname : product.canonicalName = ing.canonicalName) : SafeProduct py inp product :=
  fun m hm code hcode => (mem_feasible_iff.mp hr).2.derived m hm code hcode ing hing product hp hname

/-- Plans are safe exactly when no ingredient of a recipe that the search settles on is bought under the id of a
    product of another name, such as a substitute, to which some member is allergic. -/
theorem allergenContract_iff : AllergenContract py inp ↔
    ∀ recipes, inp.Assigns py recipes → inp.Settles py recipes →
      ∀ meal ∈ inp.mealsOf recipes, ∀ ing ∈ meal.recipe.ingredients, ∀ bought,
        Buys py (inp.provisioner py) meal ing bought →
        ∀ product ∈ inp.catalog, product.productId = bought.productId → product.canonicalName ≠ ing.canonicalName →
          SafeProduct py inp product := by
  constructor
  · intro h recipes hassigns hsettles meal hmeal ing hing bought hbuys product hp hid _
    have hs : inp.slots ≠ [] := by
      obtain ⟨slot, hslot, -⟩ := hassigns.mem_mealsOf hmeal
      exact List.ne_nil_of_mem hslot
    have hplan := generatePlan_completed_iff.mpr (.inr ⟨hs, recipes, hassigns, hsettles, rfl⟩)
    obtain ⟨line, hline, hlid⟩ := Provisioner.exists_line_iff.mpr ⟨meal, hmeal, ing, hing, bought, hbuys, hid.symm⟩
    exact h _ hplan line hline product hp hlid
  · intro h r hr line hline product hp hlid
    rcases generatePlan_completed_iff.mp hr with ⟨-, rfl⟩ | ⟨-, recipes, hassigns, hsettles, rfl⟩
    · exact absurd hline (by simp [PlanInput.emptyPlan])
    · obtain ⟨meal, hmeal, ing, hing, bought, hbuys, hid⟩ := Provisioner.exists_line_iff.mp ⟨line, hline, hlid⟩
      by_cases hname : product.canonicalName = ing.canonicalName
      · obtain ⟨slot, -, hfeasible⟩ := hassigns.mem_mealsOf hmeal
        exact safeProduct_of_name hfeasible hing hp hname
      · exact h recipes hassigns hsettles meal hmeal ing hing bought hbuys product hp hid.symm hname

/-- It is enough that no candidate for a slot has such an ingredient. -/
theorem allergenContract_of_feasible
    (h : ∀ slot ∈ inp.slots, ∀ recipe ∈ inp.feasible py slot, ∀ ing ∈ recipe.ingredients, ∀ bought,
      inp.matcher.matchIngredient ing = some bought → ∀ product ∈ inp.catalog, product.productId = bought.productId →
        product.canonicalName ≠ ing.canonicalName → SafeProduct py inp product) : AllergenContract py inp := by
  refine allergenContract_iff.mpr fun recipes hassigns _ meal hmeal ing hing bought hbuys product hp hid hname => ?_
  obtain ⟨slot, hslot, hfeasible⟩ := hassigns.mem_mealsOf hmeal
  exact h slot hslot meal.recipe hfeasible ing hing bought hbuys.1 product hp hid hname

end Safety

/-! ### A substitute with gluten -/

def commonBread : CatalogProductDTO where
  productId := "p1"
  canonicalName := "pan"
  displayName := "Pan"
  allergens := ["gluten"]
  packages := [{ productId := "p1", packageQuantity := 400, packageUnit := "g", amount := 2 }]

/-- Ana cannot eat gluten. Her toast is of bread without it, which the catalogue does not have; another candidate has
    put the common bread into the same group. -/
def substitutedBread : PlanInput where
  members := [{ memberAlias := "Ana", allergens := ["gluten"] }]
  mealRequirements := [{ mealType := .breakfast, requestedCount := 1 }]
  budget := { amount := 5 }
  dateRange := (739000, 739000)
  catalog := [commonBread]
  candidates :=
    [{ recipeId := "r1", title := "Tostada sin gluten", mealTypes := [.breakfast]
       ingredients :=
         [{ canonicalName := "pan_sin_gluten", displayName := "Pan sin gluten", quantity := 80, unit := "g"
            substitutionGroup := some "pan" }] },
     { recipeId := "r2", title := "Tostada", mealTypes := [.breakfast]
       ingredients :=
         [{ canonicalName := "pan", displayName := "Pan", quantity := 80, unit := "g"
            substitutionGroup := some "pan" }] }]

/-- The common bread is bought for the toast. -/
theorem not_allergenContract_substitutedBread : ¬AllergenContract (Runtime.replay []) substitutedBread := by
  intro h
  have hplan : ((generatePlan (Runtime.replay []) substitutedBread).result?.any fun r =>
      r.groceryLines.any (·.productId = some "p1")) = true := by decide +kernel
  obtain ⟨r, hr, hlines⟩ := exists_completed _ hplan
  obtain ⟨line, hline, hid⟩ := List.any_eq_true.mp hlines
  have hgluten : "gluten" ∈ canonAllergens (Runtime.replay []) ["gluten"] := by decide +kernel
  have hsafe := h r hr line hline commonBread List.mem_cons_self (of_decide_eq_true hid)
  exact hsafe _ List.mem_cons_self "gluten" hgluten hgluten

end CestaPlan.Engine
