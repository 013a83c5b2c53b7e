import CestaPlan.Engine.Runtime
import CestaPlan.Engine.Contracts
import Mathlib.Data.List.Sort
import Mathlib.Data.List.Dedup
import Mathlib.Data.String.Basic

/-! The constraints on a single recipe (`cestaplan_engine/validators.py`): allergens always discard a recipe,
    dietary restrictions discard it or count against it. -/

namespace CestaPlan.Engine

def restrictionForbidden : List (String × List String) :=
  [("vegan", ["meat", "poultry", "fish", "shellfish", "milk", "dairy", "egg", "eggs", "honey"]),
   ("vegetarian", ["meat", "fish", "shellfish", "poultry"]),
   ("gluten_free", ["gluten", "wheat", "barley", "rye"]),
   ("lactose_free", ["lactose", "milk", "dairy"]),
   ("pescatarian", ["meat", "poultry"]),
   ("halal", ["pork", "alcohol"]),
   ("kosher", ["pork", "shellfish"])]

def dietAliases : List (String × String) :=
  [("vegano", "vegan"), ("vegana", "vegan"), ("vegetariano", "vegetarian"), ("vegetariana", "vegetarian"),
   ("pescetariano", "pescatarian"), ("pescetariana", "pescatarian"), ("pescatariano", "pescatarian"),
   ("sin_gluten", "gluten_free"), ("sin gluten", "gluten_free"), ("sin_lactosa", "lactose_free"),
   ("sin lactosa", "lactose_free"), ("omnivoro", ""), ("omnívoro", "")]

def categoryForbids : List (String × List String) :=
  [("carne", ["meat", "poultry"]), ("pescado_marisco", ["fish", "shellfish"]), ("huevos", ["egg", "eggs"]),
   ("lacteos", ["milk", "dairy"])]

def allergenCanon : List (String × String) :=
  [("crustaceans", "crustacean"), ("crustaceos", "crustacean"), ("crustáceos", "crustacean"),
   ("molluscs", "mollusc"), ("moluscos", "mollusc"),
   ("eggs", "egg"), ("huevo", "egg"), ("huevos", "egg"),
   ("peanuts", "peanut"), ("cacahuete", "peanut"), ("cacahuetes", "peanut"), ("mani", "peanut"),
   ("soybeans", "soy"), ("soybean", "soy"), ("soya", "soy"), ("soja", "soy"),
   ("nuts", "tree_nut"), ("tree_nuts", "tree_nut"), ("frutos_secos", "tree_nut"), ("frutos_de_cascara", "tree_nut"),
   ("frutos de cáscara", "tree_nut"),
   ("sulphites", "sulphite"), ("sulfites", "sulphite"), ("sulfito", "sulphite"), ("sulfitos", "sulphite"),
   ("milk", "milk"), ("lactose", "milk"), ("dairy", "milk"), ("leche", "milk"), ("lactosa", "milk"),
   ("gluten", "gluten"), ("wheat", "gluten"), ("trigo", "gluten"),
   ("fish", "fish"), ("pescado", "fish"),
   ("sesame", "sesame"), ("sesamo", "sesame"), ("sésamo", "sesame"),
   ("celery", "celery"), ("apio", "celery"),
   ("mustard", "mustard"), ("mostaza", "mustard"),
   ("lupin", "lupin"), ("lupins", "lupin"), ("altramuces", "lupin")]

/-- The violations by a recipe; each text is put together from what it names. -/
inductive HardViolation where
  | allergen (code title : String)
  | allergenUnassessed (shown : List String) (more : Bool) (title : String)
  | restriction (diet : String) (hits : List String) (member : String)
  | excluded (restriction member : String)
deriving DecidableEq

structure SoftViolation where
  avoided : String
  member : String
deriving DecidableEq

structure ValidationResult where
  valid : Bool := true
  hardViolations : List HardViolation := []
  softViolations : List SoftViolation := []
  warnings : List PlanWarning := []
deriving DecidableEq

section Validators
variable (py : Runtime)

def lowerSet (values : List String) : List String := ((values.filter (Text.strip · ≠ "")).map py.fold).dedup

def canonAllergen (code : String) : String := (allergenCanon.lookup code).getD code

def canonAllergens (values : List String) : List String :=
  (((values.map py.fold).filter (· ≠ "")).map canonAllergen).dedup

/-- `_by_ingredient` of either validator: the allergens of the products of each canonical name. -/
def byIngredient (catalog : List CatalogProductDTO) : Dict String (List String) :=
  catalog.foldl (fun d product =>
    d.set product.canonicalName (d.getD product.canonicalName [] ++ lowerSet py product.allergens)) Dict.empty

/-! ### Allergens -/

def derivedAllergens (catalog : List CatalogProductDTO) (recipe : CandidateRecipeDTO) : List String :=
  canonAllergens py (lowerSet py recipe.allergensDeclared ++
    recipe.ingredients.flatMap fun ing => (byIngredient py catalog).getD ing.canonicalName [])

def householdAllergens (members : List MemberDTO) : List String :=
  members.flatMap fun m => canonAllergens py m.allergens

def strictAllergens (members : List MemberDTO) : List String :=
  members.flatMap fun m => canonAllergens py m.strictAllergenCodes

def allergenConflict (catalog : List CatalogProductDTO) (recipe : CandidateRecipeDTO) (members : List MemberDTO) :
    List String :=
  ((derivedAllergens py catalog recipe).filter (householdAllergens py members).contains).insertionSort (· ≤ ·)

def unassessedIngredients (recipe : CandidateRecipeDTO) : List String :=
  ((recipe.ingredients.filter (!·.allergenAssessed)).map (·.canonicalName)).insertionSort (· ≤ ·)

def validateAllergens (catalog : List CatalogProductDTO) (recipe : CandidateRecipeDTO) (members : List MemberDTO) :
    ValidationResult :=
  let conflict := allergenConflict py catalog recipe members
  -- A serious allergy is not served a recipe whose ingredients are not all assessed.
  let unassessed := if (strictAllergens py members).isEmpty then [] else unassessedIngredients recipe
  let declaredAny := !recipe.allergensDeclared.isEmpty ||
    recipe.ingredients.any fun ing => (byIngredient py catalog).contains ing.canonicalName
  { valid := conflict.isEmpty && unassessed.isEmpty
    hardViolations := conflict.map (.allergen · recipe.title) ++
      if unassessed.isEmpty then []
      else [.allergenUnassessed (unassessed.take 3) (3 < unassessed.length) recipe.title]
    warnings := if declaredAny then [] else [.noAllergenData recipe.title] }

/-! ### Dietary restrictions -/

/-- The non-empty parts of `re.split(r"[_\s]+", name)`. -/
def wordParts (name : String) : List String :=
  ((name.toList.splitOnP fun c => c = '_' || Text.isSpace c).filter (· ≠ [])).map String.ofList

def ingredientTokens (catalog : List CatalogProductDTO) (ing : RecipeIngredientDTO) : List String :=
  let name := py.fold ing.canonicalName
  name :: wordParts name ++ (byIngredient py catalog).getD ing.canonicalName [] ++
    match ing.category with
    | some category => if category ≠ "" then (categoryForbids.lookup (py.fold category)).getD [] else []
    | none => []

def recipeTokens (catalog : List CatalogProductDTO) (recipe : CandidateRecipeDTO) : List String :=
  lowerSet py recipe.preferenceTags ++ lowerSet py recipe.allergensDeclared ++
    recipe.ingredients.flatMap (ingredientTokens py catalog)

/-- The diet that a restriction names, in English. -/
def canonDiet (restriction : String) : String := (dietAliases.lookup restriction).getD restriction

def restrictionViolation (tokens : List String) (member restriction : String) : Option HardViolation :=
  match restrictionForbidden.lookup (canonDiet restriction) with
  | some forbidden =>
    let hit := forbidden.filter tokens.contains
    if hit.isEmpty then none else some (.restriction (canonDiet restriction) (hit.insertionSort (· ≤ ·)) member)
  | none => if tokens.contains restriction then some (.excluded restriction member) else none

def preferenceViolation (tokens : List String) (member pref : String) : Option SoftViolation :=
  let token := (py.fold pref).toList
  if "avoid:".toList.isPrefixOf token then
    let avoided := String.ofList (token.drop 6)
    if avoided ≠ "" && tokens.contains avoided then some { avoided := avoided, member := member } else none
  else none

def validateDiet (catalog : List CatalogProductDTO) (recipe : CandidateRecipeDTO) (members : List MemberDTO) :
    ValidationResult :=
  let tokens := recipeTokens py catalog recipe
  let hard := members.flatMap fun m =>
    (lowerSet py m.hardRestrictions).filterMap (restrictionViolation tokens m.memberAlias)
  { valid := hard.isEmpty
    hardViolations := hard
    softViolations := members.flatMap fun m =>
      m.softPreferences.filterMap (preferenceViolation py tokens m.memberAlias) }

end Validators
end CestaPlan.Engine
