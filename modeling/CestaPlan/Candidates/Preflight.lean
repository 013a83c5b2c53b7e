import CestaPlan.Catalog.Entries
import CestaPlan.Candidates.SeedLibrary
import Mathlib

/-! The check that runs before the planner (`services/planner_preflight.py`). It counts the recipes that a chain can price
    from the tables, where the planner takes them from the catalogue. -/

namespace CestaPlan.Candidates
open Engine Catalog Updates

/-! ### The outcome -/

/-- The codes with a reason; the others are the engine's. -/
inductive PreflightCode where
  | noActiveRecipes | noCompatibleRecipes | noRetailerSelected | retailerWithoutCatalog | noMappedProducts
  | noProductPrices | noCostableRecipes | insufficientRecipeVariety
deriving DecidableEq, Repr

inductive ActionCode where
  | addRecipes | relaxSoftPreferences | changeStore | reduceMeals | increaseBudget | configureProvider | reviewMappings
deriving DecidableEq, Repr

/-- `_REASONS`. -/
def reasons : PreflightCode → String × List ActionCode
  | .noActiveRecipes => ("No hay recetas activas disponibles para construir el plan.", [.addRecipes])
  | .noCompatibleRecipes =>
    ("Ninguna receta es compatible con las restricciones del hogar.", [.addRecipes, .relaxSoftPreferences])
  | .noRetailerSelected => ("Selecciona una cadena con catálogo para poder calcular precios.", [.changeStore])
  | .retailerWithoutCatalog =>
    ("La cadena seleccionada todavía no tiene un catálogo cargado.", [.changeStore, .configureProvider])
  | .noMappedProducts =>
    ("Todavía no hay productos asociados a los ingredientes.", [.reviewMappings, .configureProvider])
  | .noProductPrices =>
    ("Todavía no hay precios disponibles para calcular un plan con presupuesto.", [.configureProvider])
  | .noCostableRecipes =>
    ("Hay recetas disponibles, pero ninguna tiene todos sus ingredientes y precios necesarios para calcular el coste.",
      [.reviewMappings, .addRecipes])
  | .insufficientRecipeVariety =>
    ("No hay suficiente variedad de recetas costeables para las comidas solicitadas.", [.addRecipes, .reduceMeals])

structure CandidateCounts where
  recipesActive : Nat
  productiveProducts : Nat
  approvedMappings : Nat
  productivePrices : Nat
  costableRecipes : Nat
  requestedMealTypes : Nat
deriving DecidableEq

inductive Detail where
  | retailer (slug : String)
  | requestedMealTypes (count : Nat)
deriving DecidableEq

structure PreflightOutcome where
  ok : Bool
  code : Option PreflightCode := none
  reason : Option String := none
  suggestedActions : List ActionCode := []
  candidateCounts : CandidateCounts
  details : List Detail := []
deriving DecidableEq

/-- `_fail`. -/
def fail (code : PreflightCode) (counts : CandidateCounts) (details : List Detail) : PreflightOutcome where
  ok := false
  code := some code
  reason := some (reasons code).1
  suggestedActions := (reasons code).2
  candidateCounts := counts
  details := details

/-- `evaluate`. -/
def evaluate (counts : CandidateCounts) (retailerSelected : Bool) (retailerSlug : Option String) : PreflightOutcome :=
  if counts.recipesActive = 0 then fail .noActiveRecipes counts []
  else if !retailerSelected then fail .noRetailerSelected counts []
  else if counts.productiveProducts = 0 then fail .retailerWithoutCatalog counts (retailerSlug.map .retailer).toList
  else if counts.approvedMappings = 0 then fail .noMappedProducts counts []
  else if counts.productivePrices = 0 then fail .noProductPrices counts []
  else if counts.costableRecipes = 0 then fail .noCostableRecipes counts []
  else if counts.costableRecipes < max 1 counts.requestedMealTypes then
    fail .insufficientRecipeVariety counts [.requestedMealTypes counts.requestedMealTypes]
  else { ok := true, candidateCounts := counts }

/-! ### The counts -/

section Counts
variable (db : Database)

/-- The products with a price, of the retailer if one is selected. -/
def pricedProductIds (retailerId : Option Nat) : List Nat :=
  ((db.shop.prices.filter fun p => retailerId.all (· = p.retailerId)).map (·.productId)).eraseDups

/-- The ingredients with an active mapping to one of the products. -/
def mappedIngredientIds (priced : List Nat) : List Nat :=
  ((db.shop.mappings.filter fun m => m.isActive && priced.contains m.productId).map (·.ingredientId)).eraseDups

/-- The recipe has a mandatory ingredient, and each of them is mapped. -/
def costable (mapped : List Nat) (recipe : Recipe) : Bool :=
  !recipe.mandatory.isEmpty && recipe.mandatory.all fun ri => mapped.contains ri.ingredientId

/-- `_count_costable_recipes`. -/
def countCostableRecipes (retailerId : Option Nat) : Nat :=
  let priced := pricedProductIds db retailerId
  if priced.isEmpty then 0
  else
    let mapped := mappedIngredientIds db priced
    if mapped.isEmpty then 0
    else (db.recipes.filter (·.isPublic)).foldl (fun n recipe => if costable mapped recipe then n + 1 else n) 0

/-- What the check reads of a meal plan: its retailer and the requested counts of its requirements. -/
structure MealPlan where
  retailerId : Option Nat
  requestedCounts : List Int := []

/-- `_requested_meal_type_count`. -/
def requestedMealTypeCount (plan : MealPlan) : Nat := plan.requestedCounts.countP (0 < ·)

/-- `run_preflight`. -/
def runPreflight (plan : MealPlan) : PreflightOutcome :=
  let recipesActive := db.recipes.countP (·.isPublic)
  let approvedMappings := db.shop.mappings.countP (·.isActive)
  let requestedMealTypes := requestedMealTypeCount plan
  match plan.retailerId with
  | none =>
    evaluate
      { recipesActive := recipesActive
        productiveProducts := 0
        approvedMappings := approvedMappings
        productivePrices := 0
        costableRecipes := 0
        requestedMealTypes := requestedMealTypes } false none
  | some retailerId =>
    let productivePrices := db.shop.prices.countP (·.retailerId = retailerId)
    evaluate
      { recipesActive := recipesActive
        productiveProducts := db.shop.products.countP fun p => p.retailerId = some retailerId && p.deletedAt.isNone
        approvedMappings := approvedMappings
        productivePrices := productivePrices
        costableRecipes :=
          if recipesActive ≠ 0 ∧ approvedMappings ≠ 0 ∧ productivePrices ≠ 0 then countCostableRecipes db (some retailerId)
          else 0
        requestedMealTypes := requestedMealTypes } true ((row? (·.id) db.retailers retailerId).map (·.slug))

/-- The recipe is one of those that are counted. -/
def Counted (retailerId : Nat) (recipe : Recipe) : Prop :=
  costable (mappedIngredientIds db (pricedProductIds db (some retailerId))) recipe = true

end Counts

/-! ### The candidates -/

/-- The canonical names of the catalogue, as the planner hands them to the provider. -/
def catalogNames (settings : Settings) (db : Database) (retailerId : Nat) : List String :=
  ((buildCatalog settings db.shop (some retailerId)).map (·.canonicalName)).eraseDups.insertionSort (· ≤ ·)

/-- `build_seed_candidates` offers the recipe when its own meal types are asked for. -/
def Offered (settings : Settings) (db : Database) (retailerId : Nat) (recipe : Recipe) : Prop :=
  ∃ seeds, buildSeedCandidates db (recipe.mealTypes.getD []) (some (catalogNames settings db retailerId)) = .ok seeds ∧
    ∃ c ∈ seeds, c.recipeId = toString recipe.id

/-- The count and the candidates agree on the public recipes, and a check that passes leaves a candidate. -/
def CountsWhatIsOffered (settings : Settings) (db : Database) (retailerId : Nat) (requestedCounts : List Int) : Prop :=
  (∀ recipe ∈ db.recipes, recipe.isPublic = true →
    (Counted db retailerId recipe ↔ Offered settings db retailerId recipe)) ∧
  ((runPreflight db { retailerId := some retailerId, requestedCounts := requestedCounts }).ok = true →
    ∃ recipe ∈ db.recipes, recipe.isPublic = true ∧ Offered settings db retailerId recipe)

/-! ### What the tables say -/

/-- The ingredient has an active mapping to a product that the chain has a price of. -/
def ChainPriced (db : Database) (retailerId ingredientId : Nat) : Prop :=
  ∃ m ∈ db.shop.mappings, m.isActive = true ∧ m.ingredientId = ingredientId ∧
    ∃ p ∈ db.shop.prices, p.retailerId = retailerId ∧ p.productId = m.productId

/-- An ingredient of the name has an active mapping to a product that is not deleted and that has a price in the zone. -/
def ZonePriced (settings : Settings) (db : Database) (retailerId : Nat) (name : String) : Prop :=
  ∃ m ∈ db.shop.mappings, m.isActive = true ∧
    (∃ ing, row? (·.id) db.shop.ingredients m.ingredientId = some ing ∧ ing.canonicalName = name) ∧
    (∃ product, row? (·.id) db.shop.products m.productId = some product ∧ product.deletedAt = none) ∧
    ∃ p ∈ chainPrices settings db.shop retailerId, p.productId = m.productId

/-- The mandatory ingredients are priced in the zone under the names of their lines, or nothing is. -/
def Listed (settings : Settings) (db : Database) (retailerId : Nat) (recipe : Recipe) : Prop :=
  (∀ name, ¬ZonePriced settings db retailerId name) ∨
    ∀ ri ∈ recipe.mandatory, ZonePriced settings db retailerId ri.canonicalName

/-- No row that is offered along with the recipe is refused by its DTO. -/
def Builds (settings : Settings) (db : Database) (retailerId : Nat) (recipe : Recipe) : Prop :=
  ∀ other ∈ publicRecipes db, ofTypes (recipe.mealTypes.getD []) other = true → Listed settings db retailerId other →
    other.WellFormed

/-- The tables price the recipe by the ids of its lines exactly where they do by the names. -/
structure Agrees (settings : Settings) (db : Database) (retailerId : Nat) (recipe : Recipe) : Prop where
  counted : recipe.mandatory ≠ [] → (∀ ri ∈ recipe.mandatory, ChainPriced db retailerId ri.ingredientId) →
    recipe.deletedAt = none ∧ Listed settings db retailerId recipe ∧ Builds settings db retailerId recipe
  offered : recipe.deletedAt = none → Listed settings db retailerId recipe → Builds settings db retailerId recipe →
    recipe.mandatory ≠ [] ∧ ∀ ri ∈ recipe.mandatory, ChainPriced db retailerId ri.ingredientId

/-! ### The count -/

section Count
variable {db : Database} {retailerId : Nat} {recipe : Recipe}

theorem mem_pricedProductIds {productId : Nat} : productId ∈ pricedProductIds db (some retailerId) ↔
    ∃ p ∈ db.shop.prices, p.retailerId = retailerId ∧ p.productId = productId := by
  simp [pricedProductIds, and_assoc, eq_comm]

theorem mem_mappedIngredientIds {ingredientId : Nat} :
    ingredientId ∈ mappedIngredientIds db (pricedProductIds db (some retailerId)) ↔
      ChainPriced db retailerId ingredientId := by
  simp only [mappedIngredientIds, List.mem_eraseDups, List.mem_map, List.mem_filter, Bool.and_eq_true,
    List.contains_iff_mem, mem_pricedProductIds, ChainPriced]
  constructor
  · rintro ⟨m, ⟨hm, hactive, hpriced⟩, hid⟩
    exact ⟨m, hm, hactive, hid, hpriced⟩
  · rintro ⟨m, hm, hactive, hid, hpriced⟩
    exact ⟨m, ⟨hm, hactive, hpriced⟩, hid⟩

theorem counted_iff : Counted db retailerId recipe ↔
    recipe.mandatory ≠ [] ∧ ∀ ri ∈ recipe.mandatory, ChainPriced db retailerId ri.ingredientId := by
  rw [Counted, costable, Bool.and_eq_true, Bool.not_eq_true', List.isEmpty_eq_false_iff, List.all_eq_true]
  simp only [List.contains_iff_mem, mem_mappedIngredientIds]

theorem costable_nil : costable [] recipe = false := by
  cases h : recipe.mandatory with
  | nil => simp [costable, h]
  | cons ri rest => simp [costable, h]

theorem foldl_count {p : Recipe → Bool} {recipes : List Recipe} {n : Nat} :
    recipes.foldl (fun n recipe => if p recipe then n + 1 else n) n = n + recipes.countP p := by
  induction recipes generalizing n with
  | nil => rfl
  | cons recipe recipes ih =>
    rw [List.foldl_cons, ih, List.countP_cons]
    split <;> omega

theorem countCostableRecipes_eq : countCostableRecipes db (some retailerId) =
    (db.recipes.filter (·.isPublic)).countP
      (costable (mappedIngredientIds db (pricedProductIds db (some retailerId)))) := by
  have hnone : (db.recipes.filter (·.isPublic)).countP (costable []) = 0 :=
    List.countP_eq_zero.mpr fun recipe _ => by simp [costable_nil]
  unfold countCostableRecipes
  by_cases hpriced : (pricedProductIds db (some retailerId)).isEmpty = true
  · have hmapped : mappedIngredientIds db [] = [] := by simp [mappedIngredientIds]
    rw [if_pos hpriced, List.isEmpty_iff.mp hpriced, hmapped, hnone]
  · by_cases hmapped : (mappedIngredientIds db (pricedProductIds db (some retailerId))).isEmpty = true
    · rw [if_neg hpriced, if_pos hmapped, List.isEmpty_iff.mp hmapped, hnone]
    · rw [if_neg hpriced, if_neg hmapped, foldl_count, Nat.zero_add]

theorem evaluate_ok {counts : CandidateCounts} {retailerSelected : Bool} {slug : Option String}
    (h : (evaluate counts retailerSelected slug).ok = true) : counts.costableRecipes ≠ 0 := by
  intro hzero
  unfold evaluate at h
  rw [if_pos hzero] at h
  split at h
  · cases h
  split at h
  · cases h
  split at h
  · cases h
  split at h
  · cases h
  split at h <;> cases h

theorem exists_counted_of_ok {requestedCounts : List Int}
    (h : (runPreflight db { retailerId := some retailerId, requestedCounts := requestedCounts }).ok = true) :
    ∃ recipe ∈ db.recipes, recipe.isPublic = true ∧ Counted db retailerId recipe := by
  have hcount := evaluate_ok h
  rw [ne_eq, ite_eq_right_iff, not_forall] at hcount
  obtain ⟨-, hcount⟩ := hcount
  rw [countCostableRecipes_eq, List.countP_eq_zero, not_forall] at hcount
  obtain ⟨recipe, hrecipe⟩ := hcount
  rw [not_forall, not_not] at hrecipe
  obtain ⟨hmem, hcounted⟩ := hrecipe
  exact ⟨recipe, (List.mem_filter.mp hmem).1, (List.mem_filter.mp hmem).2, hcounted⟩

end Count

/-! ### The candidates of a recipe -/

section Candidates
variable {settings : Settings} {db : Database} {retailerId : Nat} {recipe : Recipe}

theorem mem_catalogNames {name : String} :
    name ∈ catalogNames settings db retailerId ↔ ZonePriced settings db retailerId name := by
  rw [catalogNames, List.mem_insertionSort, List.mem_eraseDups]
  exact mem_buildCatalog_names

theorem priceable_catalogNames : priceable (some (catalogNames settings db retailerId)) recipe = true ↔
    Listed settings db retailerId recipe := by
  rw [priceable_some, Listed, List.eq_nil_iff_forall_not_mem]
  simp only [mem_catalogNames]

theorem ofTypes_self : ofTypes (recipe.mealTypes.getD []) recipe = true := by
  unfold ofTypes
  cases recipe.mealTypes.getD [] with
  | nil => rfl
  | cons t types => simp

theorem mem_of_recipeId {requestedTypes : List String} {allowList : Option (List String)} {seeds : List CandidateRecipeDTO}
    (hids : (db.recipes.map (·.id)).Nodup) (hseeds : buildSeedCandidates db requestedTypes allowList = .ok seeds)
    (hrecipe : recipe ∈ db.recipes) {c : CandidateRecipeDTO} (hc : c ∈ seeds) (hid : c.recipeId = toString recipe.id) :
    recipe ∈ publicRecipes db ∧ priceable allowList recipe = true := by
  obtain ⟨other, hother, hcandidate⟩ := (Runs.exists_of_forall₂ (Runs.forall₂_of_mapM_eq_ok hseeds)).2 c hc
  obtain ⟨hmem, hpriceable⟩ := List.mem_filter.mp hother
  have hpublic := (List.mem_filter.mp hmem).1
  have hsame : other = recipe := by
    refine List.inj_on_of_nodup_map hids (mem_publicRecipes.mp hpublic).1 hrecipe ?_
    exact Nat.repr_inj.mp ((seedCandidate_recipeId hcandidate).symm.trans hid)
  exact hsame ▸ ⟨hpublic, hpriceable⟩

theorem offered_iff (hids : (db.recipes.map (·.id)).Nodup) (hrecipe : recipe ∈ db.recipes)
    (hpublic : recipe.isPublic = true) : Offered settings db retailerId recipe ↔
      recipe.deletedAt = none ∧ Listed settings db retailerId recipe ∧ Builds settings db retailerId recipe := by
  have hbuilds : (∃ seeds, buildSeedCandidates db (recipe.mealTypes.getD [])
      (some (catalogNames settings db retailerId)) = .ok seeds) ↔ Builds settings db retailerId recipe := by
    rw [exists_buildSeedCandidates_iff]
    simp only [priceable_catalogNames, Builds]
  constructor
  · rintro ⟨seeds, hseeds, c, hc, hid⟩
    obtain ⟨hmem, hpriceable⟩ := mem_of_recipeId hids hseeds hrecipe hc hid
    exact ⟨(mem_publicRecipes.mp hmem).2.1, priceable_catalogNames.mp hpriceable, hbuilds.mp ⟨seeds, hseeds⟩⟩
  · rintro ⟨hkept, hlisted, hrows⟩
    obtain ⟨seeds, hseeds⟩ := hbuilds.mpr hrows
    have hmem : recipe ∈ ((publicRecipes db).filter (ofTypes (recipe.mealTypes.getD []))).filter
        (priceable (some (catalogNames settings db retailerId))) := by
      refine List.mem_filter.mpr ⟨List.mem_filter.mpr ⟨?_, ofTypes_self⟩, priceable_catalogNames.mpr hlisted⟩
      exact mem_publicRecipes.mpr ⟨hrecipe, hkept, hpublic⟩
    obtain ⟨c, hc, hcandidate⟩ := (Runs.exists_of_forall₂ (Runs.forall₂_of_mapM_eq_ok hseeds)).1 recipe hmem
    exact ⟨seeds, hseeds, c, hc, seedCandidate_recipeId hcandidate⟩

variable (settings retailerId) in
theorem counted_iff_offered_iff (hids : (db.recipes.map (·.id)).Nodup) (hrecipe : recipe ∈ db.recipes)
    (hpublic : recipe.isPublic = true) :
    (Counted db retailerId recipe ↔ Offered settings db retailerId recipe) ↔ Agrees settings db retailerId recipe := by
  rw [counted_iff, offered_iff hids hrecipe hpublic]
  constructor
  · rintro ⟨hcounted, hoffered⟩
    exact ⟨fun hne hpriced => hcounted ⟨hne, hpriced⟩, fun hkept hlisted hrows => hoffered ⟨hkept, hlisted, hrows⟩⟩
  · rintro ⟨hcounted, hoffered⟩
    exact ⟨fun ⟨hne, hpriced⟩ => hcounted hne hpriced, fun ⟨hkept, hlisted, hrows⟩ => hoffered hkept hlisted hrows⟩

theorem countsWhatIsOffered_iff (hids : (db.recipes.map (·.id)).Nodup) (requestedCounts : List Int) :
    CountsWhatIsOffered settings db retailerId requestedCounts ↔
      ∀ recipe ∈ db.recipes, recipe.isPublic = true → Agrees settings db retailerId recipe := by
  have hagree := fun recipe (hrecipe : recipe ∈ db.recipes) (hpublic : recipe.isPublic = true) =>
    counted_iff_offered_iff settings retailerId hids hrecipe hpublic
  constructor
  · exact fun h recipe hrecipe hpublic => (hagree recipe hrecipe hpublic).mp (h.1 recipe hrecipe hpublic)
  · intro h
    have hsame := fun recipe hrecipe hpublic => (hagree recipe hrecipe hpublic).mpr (h recipe hrecipe hpublic)
    refine ⟨hsame, fun hok => ?_⟩
    obtain ⟨recipe, hrecipe, hpublic, hcounted⟩ := exists_counted_of_ok hok
    exact ⟨recipe, hrecipe, hpublic, (hsame recipe hrecipe hpublic).mp hcounted⟩

end Candidates

/-! A chain with two stores, where the rice has a price only in the store outside the zone. -/

def zoneSettings : Settings := { mercadonaPostalCode := "28001" }

def priceAt (storeId productId : Nat) : ProductPrice where
  id := productId
  retailerId := 1
  storeId := storeId
  productId := productId
  amount := 2
  packageQuantity := 1000
  packageUnit := "g"
  sourceType := "demo"
  sourceName := "demo"
  observedAt := 0

def riceOnly : Recipe where
  id := 1
  origin := .seed
  isPublic := true
  title := "Arroz blanco"
  servings := 2
  mealTypes := some ["lunch"]
  ingredients := [{ ingredientId := 1, canonicalName := "arroz", quantity := 200, unit := "g" }]

def zoneDb : Database where
  shop :=
    { stores := [{ id := 1, retailerId := 1, postalCode := "28001" }, { id := 2, retailerId := 1, postalCode := "41001" }]
      ingredients :=
        [{ id := 1, canonicalName := "arroz", displayName := "Arroz" },
          { id := 2, canonicalName := "alubia", displayName := "Alubia" }]
      products := [{ id := 1, retailerId := some 1 }, { id := 2, retailerId := some 1 }]
      mappings := [{ ingredientId := 1, productId := 1 }, { ingredientId := 2, productId := 2 }]
      prices := [priceAt 2 1, priceAt 1 2] }
  recipes := [riceOnly]

theorem countsWhatIsOffered_iff_zone : CountsWhatIsOffered zoneSettings zoneDb 1 [1] ↔
    ∀ recipe ∈ zoneDb.recipes, recipe.isPublic = true → Agrees zoneSettings zoneDb 1 recipe :=
  countsWhatIsOffered_iff (by decide) [1]

theorem not_offered_zone : ¬Offered zoneSettings zoneDb 1 riceOnly := by
  rintro ⟨seeds, hseeds, c, hc, hid⟩
  have hpriceable := (mem_of_recipeId (by decide) hseeds List.mem_cons_self hc hid).2
  exact absurd hpriceable (by decide +kernel)

/-- The check passes, and no recipe of the chain is offered. -/
theorem not_countsWhatIsOffered_zone : ¬CountsWhatIsOffered zoneSettings zoneDb 1 [1] := by
  rintro ⟨-, hpasses⟩
  have hok : (runPreflight zoneDb { retailerId := some 1, requestedCounts := [1] }).ok = true := by decide +kernel
  obtain ⟨recipe, hrecipe, -, hoffered⟩ := hpasses hok
  obtain rfl := List.mem_singleton.mp hrecipe
  exact not_offered_zone hoffered

end CestaPlan.Candidates
