import CestaPlan.Library.Runs
import CestaPlan.Catalog.PlanCatalog

/-! The recipes of the library, and those of them that a plan chooses from (`services/candidate_providers.py`). -/

namespace CestaPlan.Candidates
open Engine Catalog Updates
open Calendar (Instant)

/-! ### The tables -/

structure RecipeIngredient where
  ingredientId : Nat
  canonicalName : String
  displayName : Option String := none
  quantity : ℚ
  unit : String
  optional : Bool := false
  substitutionGroup : Option String := none
deriving DecidableEq

structure RecipeStep where
  stepNumber : Int
  instruction : String
deriving DecidableEq

inductive RecipeOrigin where
  | seed | aiGenerated | user | imported
deriving DecidableEq, Repr

structure Recipe where
  id : Nat
  householdId : Option Nat := none
  origin : RecipeOrigin
  isPublic : Bool := false
  isSynthetic : Bool := false
  title : String
  description : Option String := none
  servings : Int
  mealTypes : Option (List String) := none
  cuisine : Option String := none
  preferenceTags : Option (List String) := none
  preparationMinutes : Option Int := none
  cookingMinutes : Option Int := none
  requiredEquipment : Option (List String) := none
  leftoverReuse : Option String := none
  storageInstructions : Option String := none
  reheatingInstructions : Option String := none
  generatedBy : Option String := none
  deletedAt : Option Instant := none
  ingredients : List RecipeIngredient := []
  steps : List RecipeStep := []
deriving DecidableEq

structure Retailer where
  id : Nat
  slug : String
deriving DecidableEq

structure Database where
  shop : Shop := {}
  retailers : List Retailer := []
  households : List Nat := []
  recipes : List Recipe := []
  /-- The next id of the sequence of recipes. -/
  recipeSeq : Nat := 1

/-- The exceptions that leave a provider. -/
inductive Fault where
  /-- `pydantic.ValidationError`. -/
  | validation
  /-- The flush of a row failed. -/
  | flush
  /-- A statement of a session whose flush has failed before, without a rollback in between. -/
  | pendingRollback
  /-- Another exception than those that the reader of the text expects. -/
  | loads
deriving DecidableEq, Repr

/-! ### What a provider gets and gives -/

structure CandidateRequest where
  householdId : Nat
  requestedTypes : List String
  allowList : List String

structure CandidateBundle where
  candidates : List CandidateRecipeDTO
  warnings : List String := []
deriving DecidableEq

/-! ### The seed library -/

/-- `s or otherwise`. -/
def textOr (s : Option String) (otherwise : String) : String := if s.getD "" = "" then otherwise else s.getD ""

def mealType? : String → Option MealType
  | "breakfast" => some .breakfast
  | "lunch" => some .lunch
  | "snack" => some .snack
  | "dinner" => some .dinner
  | _ => none

def Recipe.mealTypeSet (recipe : Recipe) : List String := (recipe.mealTypes.getD []).eraseDups

def Recipe.mandatory (recipe : Recipe) : List RecipeIngredient := recipe.ingredients.filter (!·.optional)

/-- What the DTO of a recipe checks. -/
structure Recipe.WellFormed (recipe : Recipe) : Prop where
  servings : 1 ≤ recipe.servings
  mealTypes : ∀ t ∈ recipe.mealTypeSet, (mealType? t).isSome

instance (recipe : Recipe) : Decidable recipe.WellFormed :=
  decidable_of_iff (1 ≤ recipe.servings ∧ ∀ t ∈ recipe.mealTypeSet, (mealType? t).isSome)
    ⟨fun h => ⟨h.1, h.2⟩, fun h => ⟨h.servings, h.mealTypes⟩⟩

/-- The allergen codes of an ingredient, its category, and whether its allergens were assessed. -/
structure IngredientMeta where
  codes : List String := []
  category : Option String := none
  assessed : Bool := false
deriving DecidableEq

def metaOf (ingredient : Ingredient) : IngredientMeta where
  codes := ingredient.allergenCodes.getD []
  category := ingredient.categoryCode
  assessed := ingredient.allergenCodes.isSome

/-- `ingredient_meta.get(id, (set(), None, False))`. -/
def ingredientMeta (db : Database) (ingredientId : Nat) : IngredientMeta :=
  ((row? (·.id) db.shop.ingredients ingredientId).map metaOf).getD {}

def seedIngredient (db : Database) (ri : RecipeIngredient) : RecipeIngredientDTO where
  canonicalName := ri.canonicalName
  displayName := textOr ri.displayName ri.canonicalName
  quantity := ri.quantity
  unit := ri.unit
  optional := ri.optional
  substitutionGroup := ri.substitutionGroup
  category := (ingredientMeta db ri.ingredientId).category
  allergenAssessed := (ingredientMeta db ri.ingredientId).assessed

/-- The candidate of a recipe of the library; building it fails where the DTO refuses the row. -/
def seedCandidate (db : Database) (recipe : Recipe) : Except Fault CandidateRecipeDTO :=
  if h : recipe.WellFormed then
    .ok
      { recipeId := toString recipe.id
        title := recipe.title
        description := recipe.description.getD ""
        servings := recipe.servings.toNat
        mealTypes := recipe.mealTypeSet.filterMap mealType?
        cuisine := recipe.cuisine.getD ""
        preferenceTags := recipe.preferenceTags.getD []
        ingredients := recipe.ingredients.map (seedIngredient db)
        steps := (recipe.steps.insertionSort fun a b => a.stepNumber ≤ b.stepNumber).map (·.instruction)
        preparationMinutes := recipe.preparationMinutes.getD 0
        cookingMinutes := recipe.cookingMinutes.getD 0
        requiredEquipment := (recipe.requiredEquipment.getD []).eraseDups
        allergensDeclared := recipe.ingredients.foldl
          (fun declared ri => declared ∪ (ingredientMeta db ri.ingredientId).codes) []
        servings_pos := by have := h.servings; omega }
  else .error .validation

/-- The recipes of the query, in its order. -/
def publicRecipes (db : Database) : List Recipe :=
  (db.recipes.filter fun r => r.deletedAt.isNone && r.isPublic).insertionSort fun a b => a.id ≤ b.id

/-- The recipe has a requested meal type, if any is requested. -/
def ofTypes (requestedTypes : List String) (recipe : Recipe) : Bool :=
  requestedTypes.isEmpty || (recipe.mealTypes.getD []).any requestedTypes.contains

/-- Every mandatory ingredient is in the list. An empty list, or none, turns the check off. -/
def priceable (allowList : Option (List String)) (recipe : Recipe) : Bool :=
  (allowList.getD []).isEmpty || recipe.mandatory.all fun ri => (allowList.getD []).contains ri.canonicalName

/-- `build_seed_candidates`. -/
def buildSeedCandidates (db : Database) (requestedTypes : List String) (allowList : Option (List String)) :
    Except Fault (List CandidateRecipeDTO) :=
  (((publicRecipes db).filter (ofTypes requestedTypes)).filter (priceable allowList)).mapM (seedCandidate db)

/-- `SeedCandidateProvider.get_candidates`. -/
def seedGetCandidates (db : Database) (request : CandidateRequest) : Except Fault CandidateBundle := do
  let candidates ← buildSeedCandidates db request.requestedTypes (some request.allowList)
  return { candidates := candidates }

section Lemmas
variable {db : Database} {recipe : Recipe}

theorem mem_publicRecipes : recipe ∈ publicRecipes db ↔ recipe ∈ db.recipes ∧ recipe.deletedAt = none ∧ recipe.isPublic := by
  simp [publicRecipes]

theorem exists_seedCandidate_iff : (∃ c, seedCandidate db recipe = .ok c) ↔ recipe.WellFormed := by
  unfold seedCandidate
  by_cases h : recipe.WellFormed
  · exact iff_of_true ⟨_, dif_pos h⟩ h
  · rw [dif_neg h]
    exact iff_of_false (by rintro ⟨c, hc⟩; cases hc) h

theorem seedCandidate_recipeId {c : CandidateRecipeDTO} (h : seedCandidate db recipe = .ok c) :
    c.recipeId = toString recipe.id := by
  unfold seedCandidate at h
  split at h
  · cases h
    rfl
  · cases h

theorem priceable_some {allowList : List String} : priceable (some allowList) recipe = true ↔
    allowList = [] ∨ ∀ ri ∈ recipe.mandatory, ri.canonicalName ∈ allowList := by
  simp [priceable]

theorem exists_buildSeedCandidates_iff {requestedTypes : List String} {allowList : Option (List String)} :
    (∃ seeds, buildSeedCandidates db requestedTypes allowList = .ok seeds) ↔
      ∀ recipe ∈ publicRecipes db, ofTypes requestedTypes recipe = true → priceable allowList recipe = true →
        recipe.WellFormed := by
  rw [buildSeedCandidates, Runs.exists_mapM_iff]
  simp only [List.mem_filter, and_imp, exists_seedCandidate_iff]

end Lemmas
end CestaPlan.Candidates
