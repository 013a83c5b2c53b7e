import CestaPlan.Engine.Roundings
import CestaPlan.Engine.UnitFree

/-! How many packages are bought. The demand is rounded as it is scaled, converted and added up, and a rounding that takes it over a
    whole number of packages is bought as a whole one. -/

namespace CestaPlan.Engine
namespace Provisioner
open RelatedOptions RoundedSums

section Definitions
variable (py : Runtime) (p : Provisioner)

/-- What the ingredients of a line come to, one by one. -/
def demands (meals : List MealAssignment) (key : LineKey) : List ℚ :=
  (feeders py p meals key).map fun f => (contribution py p f.1 f.2).quantity

/-- The stock that counts for a line, item by item: that of its first ingredient, as far as it converts. -/
def stocks (meals : List MealAssignment) (key : LineKey) : List ℚ :=
  (meals.findSome? (reached py p · key)).elim [] fun line =>
    (p.pantry.items.filter (·.canonicalName = line.canonicalName)).filterMap fun item =>
      (convert py p.pantry.factors item.quantity item.unit line.targetUnit (some line.canonicalName)).toOption

/-- What is missing of a line in exact decimals: its demand, less the stock. -/
def missing (meals : List MealAssignment) (key : LineKey) : ℚ :=
  max ((demands py.exact p meals key).sum - (stocks py.exact p meals key).sum) 0

/-- Of each line so many packages are bought as cover exactly what is missing. -/
def CountsExactly (meals : List MealAssignment) : Prop :=
  ∀ line ∈ (provision py p meals).groceryLines, ∀ quantity ∈ line.packageQuantity,
    (line.packagesCount : ℤ) = ⌈missing py p meals line.lineKey / quantity⌉

/-- What is missing of a line as the decimals of the context have it. -/
def missingRounded (meals : List MealAssignment) (key : LineKey) : ℚ :=
  max (py.sub (max (py.sub (py.sum (demands py p meals key))
    (min (py.sum (demands py p meals key)) (py.sum (stocks py p meals key)))) 0) 0) 0

/-- What the roundings add to the packages that are missing. -/
def drift (meals : List MealAssignment) (key : LineKey) (quantity : ℚ) : ℚ :=
  py.div (missingRounded py p meals key) quantity - missing py p meals key / quantity

/-- What the exact packages leave over, in packages. -/
def room (meals : List MealAssignment) (key : LineKey) (quantity : ℚ) : ℚ :=
  ⌈missing py p meals key / quantity⌉ - missing py p meals key / quantity

/-- How far the roundings can take the packages that are missing, by the number and sizes of the demands and the stock. -/
def noise (meals : List MealAssignment) (key : LineKey) (quantity : ℚ) : ℚ :=
  growth contextUnit ((demands py.exact p meals key).length + (stocks py.exact p meals key).length + 10) *
    (((demands py.exact p meals key).map abs).sum + ((stocks py.exact p meals key).map abs).sum) / quantity

end Definitions

section Counts
variable {py : Runtime} {p : Provisioner} {meals : List MealAssignment} {key : LineKey} {line : LineMeta} {needed : ℚ}

/-! ### Whatever is rounded, the same lines are reached -/

theorem rawQuantity_near (hround : py.round = Numeric.roundContext) (meal : MealAssignment) (ing : RecipeIngredientDTO) :
    NearOf 2 (py.mul ing.quantity (py.div meal.servings meal.recipe.servings))
      (py.exact.mul ing.quantity (py.exact.div meal.servings meal.recipe.servings)) := by
  have hscale : NearOf 1 (py.div meal.servings meal.recipe.servings) (py.exact.div meal.servings meal.recipe.servings) :=
    NearOf.div hround NearOf.refl _
  have hraw := NearOf.mul hround hscale ing.quantity
  unfold Runtime.mul at hraw ⊢
  rwa [mul_comm ing.quantity, mul_comm ing.quantity]

theorem contribution_exact (hround : py.round = Numeric.roundContext) (meal : MealAssignment) (ing : RecipeIngredientDTO) :
    (contribution py.exact p meal ing).key = (contribution py p meal ing).key ∧
      (contribution py.exact p meal ing).line = (contribution py p meal ing).line := by
  have hconvert := convert_near hround p.factors (rawQuantity_near hround meal ing) ing.unit
    (matchLine ing (p.matcher.matchIngredient ing)).targetUnit (some ing.canonicalName)
  cases hround' : convert py p.factors (py.mul ing.quantity (py.div meal.servings meal.recipe.servings)) ing.unit
      (matchLine ing (p.matcher.matchIngredient ing)).targetUnit (some ing.canonicalName) <;>
    cases hexact : convert py.exact p.factors (py.exact.mul ing.quantity (py.exact.div meal.servings meal.recipe.servings)) ing.unit
      (matchLine ing (p.matcher.matchIngredient ing)).targetUnit (some ing.canonicalName) <;>
    rw [hround', hexact] at hconvert
  · simp only [contribution, hround', hexact, and_self]
  · cases hconvert
  · cases hconvert
  · simp only [contribution, hround', hexact, and_self]

theorem reached_exact (hround : py.round = Numeric.roundContext) (meal : MealAssignment) (key : LineKey) :
    reached py.exact p meal key = reached py p meal key := by
  unfold reached
  rw [List.find?_map, List.find?_map, Option.map_map, Option.map_map]
  have hkey : ((fun c : Contribution => decide (c.key = key)) ∘ contribution py.exact p meal) =
      (fun c : Contribution => decide (c.key = key)) ∘ contribution py p meal :=
    funext fun ing => by simp only [Function.comp_apply, (contribution_exact hround meal ing).1]
  rw [hkey]
  exact congrArg₂ _ (funext fun ing => (contribution_exact hround meal ing).2) rfl

theorem feeders_exact (hround : py.round = Numeric.roundContext) : feeders py.exact p meals key = feeders py p meals key :=
  List.filter_congr fun f _ => by rw [(contribution_exact hround f.1 f.2).1]

/-! ### Demands and stocks -/

theorem contribution_near (hround : py.round = Numeric.roundContext) (meal : MealAssignment) (ing : RecipeIngredientDTO) :
    NearOf 7 (contribution py p meal ing).quantity (contribution py.exact p meal ing).quantity := by
  have hconvert := convert_near hround p.factors (rawQuantity_near hround meal ing) ing.unit
    (contribution py p meal ing).line.targetUnit (some ing.canonicalName)
  have hexact := @convert_contribution py.exact p meal ing
  rw [(contribution_exact hround meal ing).2] at hexact
  rw [convert_contribution, hexact] at hconvert
  cases hconvert with
  | some hnear => exact hnear

theorem demands_near (hround : py.round = Numeric.roundContext) :
    List.Forall₂ (NearOf 7) (demands py p meals key) (demands py.exact p meals key) := by
  unfold demands
  rw [feeders_exact hround, List.forall₂_map_left_iff, List.forall₂_map_right_iff, List.forall₂_same]
  exact fun f _ => contribution_near hround f.1 f.2

theorem stocks_near (hround : py.round = Numeric.roundContext) :
    List.Forall₂ (NearOf 5) (stocks py p meals key) (stocks py.exact p meals key) := by
  have hfirst : meals.findSome? (reached py.exact p · key) = meals.findSome? (reached py p · key) :=
    congrArg (meals.findSome? ·) (funext fun meal => reached_exact hround meal key)
  unfold stocks
  rw [hfirst]
  cases meals.findSome? (reached py p · key) with
  | none => exact .nil
  | some line =>
    exact rel_filterMap fun item _ =>
      convert_near hround p.pantry.factors NearOf.refl item.unit line.targetUnit (some line.canonicalName)

/-! ### Packages -/

theorem pending_eq_max {name unit : String} : (p.pantry.pending py name needed unit).2 =
    max (py.sub needed (min needed (p.pantry.available py name unit))) 0 := by
  simp only [PantryCalculator.pending]
  split
  · next h => exact (max_eq_right h.le).symm
  · next h => exact (max_eq_left (not_lt.mp h)).symm

theorem available_eq_sum {name unit : String} : p.pantry.available py name unit =
    py.sum ((p.pantry.items.filter (·.canonicalName = name)).filterMap fun item =>
      (convert py p.pantry.factors item.quantity item.unit unit (some name)).toOption) := by
  rw [Runtime.sum, List.foldl_filterMap]
  unfold PantryCalculator.available
  congr 1
  funext total item
  cases convert py p.pantry.factors item.quantity item.unit unit (some name) <;> rfl

theorem packagesFor_eq_ceil (hround : py.round = Numeric.roundContext) {pending quantity : ℚ} (hq : 0 < quantity)
    (hpending : 0 ≤ pending) : (packagesFor py pending quantity : ℤ) = ⌈py.div pending quantity⌉ := by
  have hdiv : 0 ≤ py.div pending quantity := round_nonneg hround (div_nonneg hpending hq.le)
  unfold packagesFor
  split
  · next h =>
    have hzero : py.div pending quantity = 0 := by
      rw [le_antisymm h hpending, Runtime.div, zero_div, hround]
      exact if_pos rfl
    rw [hzero, Int.ceil_zero]
    rfl
  · exact Int.toNat_of_nonneg (Int.ceil_nonneg hdiv)

theorem boughtLine_packagesCount (hround : py.round = Numeric.roundContext) {quantity : ℚ}
    (h : quantity ∈ (boughtLine py p line needed).packageQuantity) : 0 < quantity ∧
      ((boughtLine py p line needed).packagesCount : ℤ) =
        ⌈py.div (max (py.sub (p.pantry.pending py line.canonicalName needed line.targetUnit).2 0) 0) quantity⌉ := by
  rcases boughtLine_cases py p line needed with ⟨-, hline⟩ | ⟨product, -, ⟨-, hline⟩ | ⟨choice, hchoice, hline⟩⟩
  · rw [hline] at h
    cases h
  · rw [hline] at h
    cases h
  · rw [hline] at h ⊢
    obtain rfl := Option.some.inj h
    obtain ⟨opt, -, hq, rfl⟩ := exists_choiceFor hchoice
    exact ⟨hq, packagesFor_eq_ceil hround hq (le_max_right _ _)⟩

theorem packagesCount_eq (hround : py.round = Numeric.roundContext) {bought : GroceryLineDTO}
    (hbought : bought ∈ (provision py p meals).groceryLines) {quantity : ℚ} (hq : quantity ∈ bought.packageQuantity) :
    0 < quantity ∧ (bought.packagesCount : ℤ) = ⌈py.div (missingRounded py p meals bought.lineKey) quantity⌉ := by
  obtain ⟨key, hline⟩ := mem_groceryLines.mp hbought
  obtain ⟨line, hfirst, rfl⟩ := Option.map_eq_some_iff.mp hline
  obtain ⟨meal, hmeal, hreached⟩ := List.exists_of_findSome?_eq_some hfirst
  have hcount := boughtLine_packagesCount hround hq
  rw [pending_eq_max, available_eq_sum, total_eq_sum] at hcount
  rw [boughtLine_lineKey hreached, missingRounded, stocks, hfirst, total_eq_sum]
  exact hcount

/-! ### How far the roundings go -/

theorem missingRounded_near (hround : py.round = Numeric.roundContext) :
    Near contextUnit ((demands py.exact p meals key).length + (stocks py.exact p meals key).length + 9)
      (((demands py.exact p meals key).map abs).sum + ((stocks py.exact p meals key).map abs).sum)
      (missingRounded py p meals key) (missing py p meals key) := by
  have hu := contextUnit_nonneg
  have herror := abs_round_sub_le hround
  have hdemand : Near contextUnit ((demands py.exact p meals key).length + (stocks py.exact p meals key).length + 7) _
      (py.sum (demands py p meals key)) (demands py.exact p meals key).sum :=
    (Near.foldl herror hu (demands_near hround)).mono hu (by omega)
  have hstock : Near contextUnit ((demands py.exact p meals key).length + (stocks py.exact p meals key).length + 7) _
      (py.sum (stocks py p meals key)) (stocks py.exact p meals key).sum :=
    (Near.foldl herror hu (stocks_near hround)).mono hu (by omega)
  have hcut : ∀ a b : ℚ, a - min a b = max (a - b) 0 := fun a b => by
    rcases le_total a b with h | h
    · rw [min_eq_left h, sub_self, max_eq_right (by linarith)]
    · rw [min_eq_right h, max_eq_left (by linarith)]
  have hpending := (((hdemand.sub hstock).cut).round herror hu).cut
  rw [← hcut] at hpending
  have hmissing := (hpending.round herror hu).cut
  unfold missingRounded missing Runtime.sub
  rw [sub_zero]
  simpa only [max_assoc, max_self] using hmissing

theorem abs_drift_le (hround : py.round = Numeric.roundContext) {quantity : ℚ} (hq : 0 < quantity) :
    |drift py p meals key quantity| ≤ noise py p meals key quantity := by
  have hdiv := ((@missingRounded_near py p meals key hround).mul quantity⁻¹).round
    (abs_round_sub_le hround) contextUnit_nonneg
  have herror := hdiv.error
  rw [abs_of_pos (inv_pos.mpr hq), ← mul_assoc] at herror
  exact herror

/-- The lines are counted exactly if and only if no drift leaves the room of the last package; and none does where the noise has room
    on both sides. -/
theorem countsExactly_iff (hround : py.round = Numeric.roundContext) :
    (CountsExactly py p meals ↔ ∀ line ∈ (provision py p meals).groceryLines, ∀ quantity ∈ line.packageQuantity,
      drift py p meals line.lineKey quantity ≤ room py p meals line.lineKey quantity ∧
        -drift py p meals line.lineKey quantity < 1 - room py p meals line.lineKey quantity) ∧
    ((∀ line ∈ (provision py p meals).groceryLines, ∀ quantity ∈ line.packageQuantity,
      noise py p meals line.lineKey quantity ≤ room py p meals line.lineKey quantity ∧
        noise py p meals line.lineKey quantity < 1 - room py p meals line.lineKey quantity) → CountsExactly py p meals) := by
  have hiff : CountsExactly py p meals ↔ ∀ line ∈ (provision py p meals).groceryLines, ∀ quantity ∈ line.packageQuantity,
      drift py p meals line.lineKey quantity ≤ room py p meals line.lineKey quantity ∧
        -drift py p meals line.lineKey quantity < 1 - room py p meals line.lineKey quantity := by
    refine forall₄_congr fun line hline quantity hquantity => ?_
    rw [(packagesCount_eq hround hline hquantity).2, ceil_eq_ceil_iff]
    unfold drift room
    refine and_congr_right fun _ => ?_
    constructor
    · intro h
      linarith
    · intro h
      linarith
  refine ⟨hiff, fun h line hline quantity hquantity => ?_⟩
  obtain ⟨hq, hcount⟩ := packagesCount_eq hround hline hquantity
  obtain ⟨hover, hunder⟩ := h line hline quantity hquantity
  rw [hcount]
  refine ceil_eq_ceil_of_abs_sub_le (abs_drift_le hround hq) hover (hunder.trans_eq ?_)
  unfold room
  ring

end Counts

/-! ### Eggs for five -/

/-- Decimals of 28 digits. -/
def decimals : Runtime := { Runtime.replay [] with round := Numeric.roundContext }

def egg : CatalogProductDTO where
  productId := "p1"
  canonicalName := "huevo"
  displayName := "Huevo"
  packages := [{ productId := "p1", packageQuantity := 1, packageUnit := "unidad", amount := 1 / 4 }]

def eggShop : Provisioner where
  matcher := productMatcher [egg] Dict.empty
  pantry := pantryCalculator [] Dict.empty none
  weights := {}
  factors := Dict.empty
  asOf := none

/-- Eggs of a recipe for three. -/
def omelette (eggs : ℚ) (servings : Nat) : MealAssignment where
  slotIndex := 0
  date := 739817
  mealType := .dinner
  recipe :=
    { recipeId := "r1", title := "Tortilla", servings := 3
      ingredients := [{ canonicalName := "huevo", displayName := "Huevo", quantity := eggs, unit := "unidad" }] }
  servings := servings
  participants := []

/-- Half an egg more than a whole number leaves room for every rounding. -/
theorem countsExactly_half : CountsExactly decimals eggShop [omelette (9 / 2) 1] :=
  (countsExactly_iff rfl).2 (by decide +kernel)

/-- Three eggs for three are five for five, and six are bought. -/
theorem not_countsExactly_omelette : (provision decimals eggShop [omelette 3 5]).groceryLines.map
      (fun line => (line.packageQuantity, line.packagesCount)) = [(some 1, 6)] ∧
    missing decimals eggShop [omelette 3 5] (.product "p1") = 5 ∧ ¬ CountsExactly decimals eggShop [omelette 3 5] := by
  unfold CountsExactly
  decide +kernel

end Provisioner
end CestaPlan.Engine
