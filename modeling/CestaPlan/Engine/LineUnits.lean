import CestaPlan.Engine.Conversions
import CestaPlan.Engine.MealOrder

/-! The units of what the lines add up. An ingredient that has no product, or whose unit does not convert, is added in its own unit,
    and a line shows the unit of the format that is bought. -/

namespace CestaPlan.Engine
namespace Provisioner

section Definitions
variable (py : Runtime) (p : Provisioner)

/-- The ingredients that feed a line, each with its meal. -/
def feeders (meals : List MealAssignment) (key : LineKey) : List (MealAssignment × RecipeIngredientDTO) :=
  (meals.flatMap fun meal => meal.recipe.ingredients.map (meal, ·)).filter fun f => (contribution py p f.1 f.2).key = key

/-- The scaled quantity of an ingredient in a unit. -/
def quantityIn (unit : String) (f : MealAssignment × RecipeIngredientDTO) : Option ℚ :=
  (convert py p.factors (py.mul f.2.quantity (py.div f.1.servings f.1.recipe.servings)) f.2.unit unit (some f.2.canonicalName)).toOption

/-- The sum of the ingredients in a unit, if all of them convert. -/
def amountIn (fs : List (MealAssignment × RecipeIngredientDTO)) (unit : String) : Option ℚ := (fs.mapM (quantityIn py p unit)).map py.sum

/-- The unit in which an ingredient is added to its line: that of the first format of its product, or its own. -/
def addedIn (f : MealAssignment × RecipeIngredientDTO) : String := normUnit py (contribution py p f.1 f.2).line.targetUnit

/-- What is added to a line is added in one unit. -/
def Unmixed (meals : List MealAssignment) (line : GroceryLineDTO) : Prop :=
  ∀ f ∈ feeders py p meals line.lineKey, ∀ f' ∈ feeders py p meals line.lineKey, addedIn py p f = addedIn py p f'

/-- The line needs what its ingredients come to in its own unit, and no two units are mixed. -/
structure Measured (meals : List MealAssignment) (line : GroceryLineDTO) : Prop where
  sum : line.packageUnit.bind (amountIn py p (feeders py p meals line.lineKey)) = some line.neededQuantity
  unmixed : Unmixed py p meals line

end Definitions

section Units
variable {py : Runtime} {p : Provisioner} {meals : List MealAssignment} {key : LineKey} {line : GroceryLineDTO}
variable {f : MealAssignment × RecipeIngredientDTO}

theorem convert_unit {factors : Factors} {q : ℚ} {u t t' : String} {name : Option String} (h : normUnit py t = normUnit py t') :
    (convert py factors q u t name).toOption = (convert py factors q u t' name).toOption := by
  rw [convert_toOption, convert_toOption, h]

theorem convert_same {factors : Factors} {q : ℚ} {u t : String} {name : Option String} (h : normUnit py u = normUnit py t) :
    convert py factors q u t name = .ok q := by
  simp only [convert, h, convertWithin, if_true]

theorem convert_contribution (meal : MealAssignment) (ing : RecipeIngredientDTO) :
    convert py p.factors (py.mul ing.quantity (py.div meal.servings meal.recipe.servings)) ing.unit
      (contribution py p meal ing).line.targetUnit (some ing.canonicalName) = .ok (contribution py p meal ing).quantity := by
  cases hconvert : convert py p.factors (py.mul ing.quantity (py.div meal.servings meal.recipe.servings)) ing.unit
      (matchLine ing (p.matcher.matchIngredient ing)).targetUnit (some ing.canonicalName) with
  | ok q =>
    simp only [contribution, hconvert]
  | error e =>
    simp only [contribution, hconvert]
    exact convert_same rfl

theorem quantityIn_added {unit : String} (h : addedIn py p f = normUnit py unit) :
    quantityIn py p unit f = some (contribution py p f.1 f.2).quantity := by
  rw [quantityIn, ← convert_unit h, convert_contribution]
  rfl

theorem total_eq_sum : total py p meals key = py.sum ((feeders py p meals key).map fun f => (contribution py p f.1 f.2).quantity) := by
  have hfeeders : (contributions py p meals).filter (·.2.key = key) =
      (feeders py p meals key).map fun f => (f.1.slotIndex, contribution py p f.1 f.2) := by
    have hall : contributions py p meals = (meals.flatMap fun meal => meal.recipe.ingredients.map (meal, ·)).map
        fun f => (f.1.slotIndex, contribution py p f.1 f.2) := by
      simp only [contributions, List.map_flatMap, List.map_map]
      rfl
    rw [hall, feeders, List.filter_map]
    rfl
  rw [total, hfeeders, List.foldl_map, Runtime.sum, List.foldl_map]

theorem mapM_eq_some {α β : Type} {g : α → Option β} {h : α → β} {fs : List α} (hg : ∀ f ∈ fs, g f = some (h f)) :
    fs.mapM g = some (fs.map h) := by
  induction fs with
  | nil => rfl
  | cons f fs ih =>
    rw [List.mapM_cons, hg f List.mem_cons_self, ih fun f' hf' => hg f' (List.mem_cons_of_mem _ hf')]
    rfl

theorem amountIn_of_unit {fs : List (MealAssignment × RecipeIngredientDTO)} {unit : String}
    (h : ∀ f ∈ fs, addedIn py p f = normUnit py unit) :
    amountIn py p fs unit = some (py.sum (fs.map fun f => (contribution py p f.1 f.2).quantity)) := by
  rw [amountIn, mapM_eq_some fun f hf => quantityIn_added (h f hf)]
  rfl

theorem boughtLine_packageUnit {reachedLine : LineMeta} {needed : ℚ} :
    ∃ unit, (boughtLine py p reachedLine needed).packageUnit = some unit := by
  rcases boughtLine_cases py p reachedLine needed with ⟨-, hline⟩ | ⟨product, -, ⟨-, hline⟩ | ⟨choice, -, hline⟩⟩
  · exact ⟨_, by rw [hline]; rfl⟩
  · exact ⟨_, by rw [hline]; rfl⟩
  · exact ⟨_, by rw [hline]; rfl⟩

theorem exists_lineOf (h : line ∈ (provision py p meals).groceryLines) : feeders py p meals line.lineKey ≠ [] ∧
    line.neededQuantity = py.sum ((feeders py p meals line.lineKey).map fun f => (contribution py p f.1 f.2).quantity) ∧
    ∃ unit, line.packageUnit = some unit := by
  obtain ⟨key, hline⟩ := mem_groceryLines.mp h
  obtain ⟨meal, hmeal, reachedLine, hreached, rfl⟩ := exists_reached hline
  rw [boughtLine_lineKey hreached, boughtLine_neededQuantity, total_eq_sum]
  obtain ⟨ing, hing, hkey, -⟩ := mem_reached hreached
  refine ⟨List.ne_nil_of_mem (List.mem_filter.mpr ⟨List.mem_flatMap.mpr ⟨meal, hmeal, List.mem_map_of_mem hing⟩, ?_⟩), rfl, ?_⟩
  · exact decide_eq_true hkey
  · exact boughtLine_packageUnit

end Units

/-! ### Salt that no product stands for -/

def salt (quantity : ℚ) (unit : String) : RecipeIngredientDTO :=
  { canonicalName := "sal", displayName := "Sal", quantity := quantity, unit := unit }

def salted (quantity : ℚ) (unit : String) : MealAssignment where
  slotIndex := 0
  date := 739817
  mealType := .lunch
  recipe := { recipeId := "r1", title := "Conserva", ingredients := [salt quantity unit] }
  servings := 1
  participants := []

def unstocked : Provisioner where
  matcher := productMatcher [] Dict.empty
  pantry := pantryCalculator [] Dict.empty none
  weights := {}
  factors := Dict.empty
  asOf := none

end Provisioner
end CestaPlan.Engine
