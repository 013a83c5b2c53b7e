import CestaPlan.Library.Numeric
import CestaPlan.Candidates.SeedLibrary

/-! The recipes that the model proposes (`OpenAICandidateProvider._persist_accepted`): which of them are accepted, and what
    the engine gets to see of an accepted one. -/

namespace CestaPlan.Candidates
open Engine Catalog Updates

/-! ### The structured response -/

/-- `_OAIIngredient`; the validation has run. -/
structure OAIIngredient where
  canonicalName : String
  displayName : String
  quantity : ℚ
  unit : String
  optional : Bool := false
  substitutionGroup : Option String := none
  quantity_pos : 0 < quantity := by decide
deriving DecidableEq

/-- `_OAIRecipe`; the validation has run. -/
structure OAIRecipe where
  title : String
  description : String := ""
  servings : Nat
  mealTypes : List MealType
  cuisine : String := ""
  preferenceTags : List String := []
  ingredients : List OAIIngredient
  steps : List String
  preparationMinutes : Nat := 0
  cookingMinutes : Nat := 0
  requiredEquipment : List String := []
  leftoverReuse : Option String := none
  storageInstructions : Option String := none
  reheatingInstructions : Option String := none
  servings_pos : 1 ≤ servings := by decide
  mealTypes_ne_nil : mealTypes ≠ [] := by decide
  ingredients_ne_nil : ingredients ≠ [] := by decide
  steps_ne_nil : steps ≠ [] := by decide

def OAIRecipe.mandatory (parsed : OAIRecipe) : List OAIIngredient := parsed.ingredients.filter (!·.optional)

def mealTypeName : MealType → String
  | .breakfast => "breakfast"
  | .lunch => "lunch"
  | .snack => "snack"
  | .dinner => "dinner"

/-! ### Acceptance -/

/-- `_load_allowed_ingredients`. -/
def loadAllowedIngredients (db : Database) (allowList : List String) : Dict String Ingredient :=
  (db.shop.ingredients.filter fun ing => allowList.contains ing.canonicalName).foldl
    (fun d ing => d.set ing.canonicalName ing) Dict.empty

/-- The listed ingredients that are in the allow-list, each with its row. -/
def keptOf (allowed : Dict String Ingredient) (parsed : OAIRecipe) : List (OAIIngredient × Ingredient) :=
  parsed.ingredients.filterMap fun ing => (allowed.get? ing.canonicalName).map fun row => (ing, row)

/-- The recipe keeps an ingredient. -/
def usable (allowed : Dict String Ingredient) (parsed : OAIRecipe) : Bool := !(keptOf allowed parsed).isEmpty

def keptDisplayName (line : OAIIngredient × Ingredient) : String := textOr (some line.1.displayName) line.2.displayName

/-- The unit is repaired to that of the ingredient. -/
def keptUnit (line : OAIIngredient × Ingredient) : String := textOr line.2.defaultUnit line.1.unit

def keptRow (line : OAIIngredient × Ingredient) : RecipeIngredient where
  ingredientId := line.2.id
  canonicalName := line.2.canonicalName
  displayName := some (keptDisplayName line)
  quantity := Numeric.roundScale 4 line.1.quantity
  unit := keptUnit line
  optional := line.1.optional
  substitutionGroup := line.1.substitutionGroup

def keptDTO (line : OAIIngredient × Ingredient) : RecipeIngredientDTO where
  canonicalName := line.2.canonicalName
  displayName := keptDisplayName line
  quantity := line.1.quantity
  unit := keptUnit line
  optional := line.1.optional
  substitutionGroup := line.1.substitutionGroup
  category := line.2.categoryCode
  allergenAssessed := line.2.allergenCodes.isSome

def numberedSteps (steps : List String) : List RecipeStep :=
  steps.zipIdx.map fun s => { stepNumber := s.2 + 1, instruction := s.1 }

/-- The row of an accepted recipe, with its lines and its steps. -/
def acceptedRow (modelId : Option String) (request : CandidateRequest) (id : Nat) (parsed : OAIRecipe)
    (kept : List (OAIIngredient × Ingredient)) : Recipe where
  id := id
  householdId := some request.householdId
  origin := .aiGenerated
  title := parsed.title
  description := some parsed.description
  servings := parsed.servings
  mealTypes := some (parsed.mealTypes.map mealTypeName)
  cuisine := some parsed.cuisine
  preferenceTags := some parsed.preferenceTags
  preparationMinutes := some (parsed.preparationMinutes : Int)
  cookingMinutes := some (parsed.cookingMinutes : Int)
  requiredEquipment := if parsed.requiredEquipment.isEmpty then none else some parsed.requiredEquipment
  leftoverReuse := parsed.leftoverReuse
  storageInstructions := parsed.storageInstructions
  reheatingInstructions := parsed.reheatingInstructions
  generatedBy := modelId
  ingredients := kept.map keptRow
  steps := numberedSteps parsed.steps

/-- The candidate of an accepted recipe. -/
def acceptedCandidate (id : Nat) (parsed : OAIRecipe) (kept : List (OAIIngredient × Ingredient)) : CandidateRecipeDTO where
  recipeId := toString id
  title := parsed.title
  description := parsed.description
  servings := parsed.servings
  mealTypes := parsed.mealTypes.eraseDups
  cuisine := parsed.cuisine
  preferenceTags := parsed.preferenceTags
  ingredients := kept.map keptDTO
  steps := parsed.steps
  preparationMinutes := parsed.preparationMinutes
  cookingMinutes := parsed.cookingMinutes
  requiredEquipment := parsed.requiredEquipment.eraseDups
  leftoverReuse := parsed.leftoverReuse.getD "" ≠ ""
  storageInstructions := parsed.storageInstructions
  reheatingInstructions := parsed.reheatingInstructions
  allergensDeclared := kept.foldl (fun declared line => declared ∪ line.2.allergenCodes.getD []) []
  servings_pos := parsed.servings_pos

/-- The largest value of an integer column. -/
def maxInteger : Int := 2147483647

/-- A text column takes every text without a zero character. -/
def PlainText (s : String) : Prop := Char.ofNat 0 ∉ s.toList

instance (s : String) : Decidable (PlainText s) := inferInstanceAs (Decidable (¬_))

/-- The columns of a recipe, of its lines and of its steps take the values, and its household exists. -/
structure Storable (db : Database) (recipe : Recipe) : Prop where
  household : ∀ h ∈ recipe.householdId, h ∈ db.households
  servings : recipe.servings ≤ maxInteger
  preparation : ∀ n ∈ recipe.preparationMinutes, n ≤ maxInteger
  cooking : ∀ n ∈ recipe.cookingMinutes, n ≤ maxInteger
  texts : ∀ s ∈ [some recipe.title, recipe.description, recipe.cuisine, recipe.leftoverReuse, recipe.storageInstructions,
    recipe.reheatingInstructions, recipe.generatedBy].reduceOption, PlainText s
  lists : ∀ s ∈ recipe.mealTypes.getD [] ++ recipe.preferenceTags.getD [] ++ recipe.requiredEquipment.getD [], PlainText s
  lines : ∀ ri ∈ recipe.ingredients, ri.quantity < 100000000 ∧
    ∀ s ∈ [some ri.canonicalName, ri.displayName, some ri.unit, ri.substitutionGroup].reduceOption, PlainText s
  steps : ∀ s ∈ recipe.steps, s.stepNumber ≤ maxInteger ∧ PlainText s.instruction

instance (db : Database) (recipe : Recipe) : Decidable (Storable db recipe) :=
  decidable_of_iff (_ ∧ _ ∧ _ ∧ _ ∧ _ ∧ _ ∧ _ ∧ _)
    ⟨fun ⟨h₁, h₂, h₃, h₄, h₅, h₆, h₇, h₈⟩ => ⟨h₁, h₂, h₃, h₄, h₅, h₆, h₇, h₈⟩,
      fun ⟨h₁, h₂, h₃, h₄, h₅, h₆, h₇, h₈⟩ => ⟨h₁, h₂, h₃, h₄, h₅, h₆, h₇, h₈⟩⟩

/-- The flush of a recipe, of its lines and of its steps. -/
def Database.addRecipe (db : Database) (recipe : Recipe) : Except Fault Database :=
  if Storable db recipe then .ok { db with recipes := db.recipes ++ [recipe], recipeSeq := db.recipeSeq + 1 }
  else .error .flush

/-- One recipe of the response. -/
def acceptStep (modelId : Option String) (request : CandidateRequest) (allowed : Dict String Ingredient)
    (state : Database × List CandidateRecipeDTO) (parsed : OAIRecipe) : Except Fault (Database × List CandidateRecipeDTO) :=
  let kept := keptOf allowed parsed
  if kept.isEmpty then .ok state
  else do
    let db ← state.1.addRecipe (acceptedRow modelId request state.1.recipeSeq parsed kept)
    return (db, state.2 ++ [acceptedCandidate state.1.recipeSeq parsed kept])

/-- `_persist_accepted`. -/
def persistAccepted (modelId : Option String) (request : CandidateRequest) (recipes : List OAIRecipe)
    (allowed : Dict String Ingredient) (db : Database) : Except Fault (Database × List CandidateRecipeDTO) :=
  recipes.foldlM (acceptStep modelId request allowed) (db, [])

/-! ### What an accepted candidate carries -/

/-- The name is in the allow-list, and there is an ingredient of that name. -/
def Known (db : Database) (allowList : List String) (name : String) : Prop :=
  name ∈ allowList ∧ ∃ ing ∈ db.shop.ingredients, ing.canonicalName = name

instance (db : Database) (allowList : List String) (name : String) : Decidable (Known db allowList name) :=
  inferInstanceAs (Decidable (_ ∧ _))

/-- A line of the candidate is the ingredient that the model listed. -/
def Carries (dto : CandidateRecipeDTO) (ing : OAIIngredient) : Prop :=
  ∃ line ∈ dto.ingredients, line.canonicalName = ing.canonicalName ∧ line.quantity = ing.quantity ∧
    line.optional = ing.optional ∧ line.substitutionGroup = ing.substitutionGroup

instance (dto : CandidateRecipeDTO) (ing : OAIIngredient) : Decidable (Carries dto ing) :=
  inferInstanceAs (Decidable (∃ _ ∈ _, _))

/-- What the candidate of an accepted recipe says of it. -/
structure Carried (db : Database) (allowList : List String) (parsed : OAIRecipe) (dto : CandidateRecipeDTO) : Prop where
  known : ∀ ing ∈ parsed.ingredients, Known db allowList ing.canonicalName → Carries dto ing
  unknown : ∀ ing ∈ parsed.ingredients, ¬Known db allowList ing.canonicalName →
    ∀ line ∈ dto.ingredients, line.canonicalName ≠ ing.canonicalName
  mandatory : (∀ ing ∈ parsed.mandatory, Carries dto ing) ↔ ∀ ing ∈ parsed.mandatory, Known db allowList ing.canonicalName
  allergens : ∀ line ∈ dto.ingredients, ∀ row, (loadAllowedIngredients db allowList).get? line.canonicalName = some row →
    row.allergenCodes.getD [] ⊆ dto.allergensDeclared
  steps : dto.steps = parsed.steps

section Allowed
variable {db : Database} {allowList : List String} {name : String} {row : Ingredient}

theorem get?_foldl_set {rows : List Ingredient} {d : Dict String Ingredient} :
    (rows.foldl (fun d ing => d.set ing.canonicalName ing) d).get? name = some row →
      d.get? name = some row ∨ row ∈ rows ∧ row.canonicalName = name := by
  induction rows generalizing d with
  | nil => exact Or.inl
  | cons ing rows ih =>
    intro h
    rcases ih h with hd | ⟨hmem, hname⟩
    · rw [Dict.get?_set] at hd
      split at hd
      · next heq =>
        cases hd
        exact Or.inr ⟨List.mem_cons_self, heq.symm⟩
      · exact Or.inl hd
    · exact Or.inr ⟨List.mem_cons_of_mem _ hmem, hname⟩

theorem mem_keys_foldl_set {rows : List Ingredient} {d : Dict String Ingredient} :
    name ∈ (rows.foldl (fun d ing => d.set ing.canonicalName ing) d).keys ↔
      name ∈ d.keys ∨ ∃ ing ∈ rows, ing.canonicalName = name := by
  induction rows generalizing d with
  | nil => simp
  | cons ing rows ih =>
    rw [List.foldl_cons, ih, Dict.mem_keys_set, List.exists_mem_cons_iff, eq_comm, or_assoc, or_left_comm]

theorem loadAllowedIngredients_name (h : (loadAllowedIngredients db allowList).get? name = some row) :
    row.canonicalName = name := by
  rcases get?_foldl_set h with hd | ⟨-, hname⟩
  · cases hd
  · exact hname

theorem exists_get?_iff : (∃ row, (loadAllowedIngredients db allowList).get? name = some row) ↔ Known db allowList name := by
  rw [← Dict.mem_keys_iff, loadAllowedIngredients, mem_keys_foldl_set, Known]
  constructor
  · rintro (hnil | ⟨ing, hing, rfl⟩)
    · cases hnil
    · rw [List.mem_filter, List.contains_iff_mem] at hing
      exact ⟨hing.2, ing, hing.1, rfl⟩
  · rintro ⟨hname, ing, hing, rfl⟩
    exact Or.inr ⟨ing, List.mem_filter.mpr ⟨hing, List.contains_iff_mem.mpr hname⟩, rfl⟩

theorem mem_keptOf {allowed : Dict String Ingredient} {parsed : OAIRecipe} {line : OAIIngredient × Ingredient} :
    line ∈ keptOf allowed parsed ↔ line.1 ∈ parsed.ingredients ∧ allowed.get? line.1.canonicalName = some line.2 := by
  unfold keptOf
  rw [List.mem_filterMap]
  constructor
  · rintro ⟨ing, hing, hline⟩
    obtain ⟨row, hrow, rfl⟩ := Option.map_eq_some_iff.mp hline
    exact ⟨hing, hrow⟩
  · rintro ⟨hing, hrow⟩
    exact ⟨line.1, hing, by rw [hrow]; rfl⟩

theorem usable_iff {parsed : OAIRecipe} : usable (loadAllowedIngredients db allowList) parsed = true ↔
    ∃ ing ∈ parsed.ingredients, Known db allowList ing.canonicalName := by
  rw [usable, Bool.not_eq_true', List.isEmpty_eq_false_iff_exists_mem]
  constructor
  · rintro ⟨line, hline⟩
    obtain ⟨hing, hrow⟩ := mem_keptOf.mp hline
    exact ⟨line.1, hing, exists_get?_iff.mp ⟨line.2, hrow⟩⟩
  · rintro ⟨ing, hing, hknown⟩
    obtain ⟨row, hrow⟩ := exists_get?_iff.mpr hknown
    exact ⟨(ing, row), mem_keptOf.mpr ⟨hing, hrow⟩⟩

theorem filter_usable {recipes : List OAIRecipe} :
    recipes.filter (usable (loadAllowedIngredients db allowList)) =
      recipes.filter fun parsed => ∃ ing ∈ parsed.ingredients, Known db allowList ing.canonicalName :=
  List.filter_congr fun parsed _ => by rw [Bool.eq_iff_iff, decide_eq_true_iff, usable_iff]

end Allowed

section Candidate
variable {db : Database} {allowList : List String} {parsed : OAIRecipe} {id : Nat}

theorem exists_kept_of_mem {line : RecipeIngredientDTO}
    (h : line ∈ (acceptedCandidate id parsed (keptOf (loadAllowedIngredients db allowList) parsed)).ingredients) :
    ∃ ing ∈ parsed.ingredients, ∃ row, (loadAllowedIngredients db allowList).get? line.canonicalName = some row ∧
      ing.canonicalName = line.canonicalName := by
  obtain ⟨kept, hkept, rfl⟩ := List.mem_map.mp h
  obtain ⟨hing, hrow⟩ := mem_keptOf.mp hkept
  have hname := loadAllowedIngredients_name hrow
  exact ⟨kept.1, hing, kept.2, by rw [← hrow]; exact congrArg _ hname, hname.symm⟩

theorem carries_iff {ing : OAIIngredient} (hing : ing ∈ parsed.ingredients) :
    Carries (acceptedCandidate id parsed (keptOf (loadAllowedIngredients db allowList) parsed)) ing ↔
      Known db allowList ing.canonicalName := by
  constructor
  · rintro ⟨line, hline, hname, -⟩
    obtain ⟨-, -, row, hrow, -⟩ := exists_kept_of_mem hline
    rw [hname] at hrow
    exact exists_get?_iff.mp ⟨row, hrow⟩
  · intro hknown
    obtain ⟨row, hrow⟩ := exists_get?_iff.mpr hknown
    refine ⟨keptDTO (ing, row), List.mem_map_of_mem (mem_keptOf.mpr ⟨hing, hrow⟩), ?_, rfl, rfl, rfl⟩
    exact loadAllowedIngredients_name hrow

theorem subset_foldl_union {lines : List (OAIIngredient × Ingredient)} {declared : List String} :
    declared ⊆ lines.foldl (fun declared line => declared ∪ line.2.allergenCodes.getD []) declared ∧
      ∀ line ∈ lines, line.2.allergenCodes.getD [] ⊆
        lines.foldl (fun declared line => declared ∪ line.2.allergenCodes.getD []) declared := by
  induction lines generalizing declared with
  | nil => simp
  | cons line lines ih =>
    obtain ⟨hstart, hlines⟩ := @ih (declared ∪ line.2.allergenCodes.getD [])
    refine ⟨fun c hc => hstart (List.mem_union_iff.mpr (Or.inl hc)), ?_⟩
    exact List.forall_mem_cons.mpr ⟨fun c hc => hstart (List.mem_union_iff.mpr (Or.inr hc)), hlines⟩

theorem carried_acceptedCandidate :
    Carried db allowList parsed (acceptedCandidate id parsed (keptOf (loadAllowedIngredients db allowList) parsed)) where
  known ing hing hknown := (carries_iff hing).mpr hknown
  unknown ing _ hunknown line hline hname := by
    obtain ⟨-, -, row, hrow, -⟩ := exists_kept_of_mem hline
    rw [hname] at hrow
    exact hunknown (exists_get?_iff.mp ⟨row, hrow⟩)
  mandatory := forall₂_congr fun ing hing => carries_iff (List.mem_of_mem_filter hing)
  allergens line hline row hrow := by
    obtain ⟨kept, hkept, rfl⟩ := List.mem_map.mp hline
    have hname := loadAllowedIngredients_name (mem_keptOf.mp hkept).2
    have heq : kept.2 = row := by
      have hget := (mem_keptOf.mp hkept).2
      rw [← hname] at hget
      exact Option.some_inj.mp (hget.symm.trans hrow)
    exact heq ▸ subset_foldl_union.2 kept hkept
  steps := rfl

end Candidate

section Run
variable {modelId : Option String} {request : CandidateRequest} {allowed : Dict String Ingredient}
variable {state state' : Database × List CandidateRecipeDTO} {parsed : OAIRecipe} {recipes : List OAIRecipe}

theorem acceptStep_cases (h : acceptStep modelId request allowed state parsed = .ok state') :
    (usable allowed parsed = false ∧ state' = state) ∨
      (usable allowed parsed = true ∧
        state.1.addRecipe (acceptedRow modelId request state.1.recipeSeq parsed (keptOf allowed parsed)) = .ok state'.1 ∧
        state'.2 = state.2 ++ [acceptedCandidate state.1.recipeSeq parsed (keptOf allowed parsed)]) := by
  unfold acceptStep at h
  unfold usable
  by_cases hkept : (keptOf allowed parsed).isEmpty = true
  · rw [if_pos hkept] at h
    cases h
    exact Or.inl ⟨by rw [hkept]; rfl, rfl⟩
  · rw [if_neg hkept] at h
    obtain ⟨db, hdb, hreturn⟩ := Runs.bind_eq_ok.mp h
    cases hreturn
    rw [Bool.not_eq_true] at hkept
    exact Or.inr ⟨by rw [hkept]; rfl, hdb, rfl⟩

theorem acceptStep_of_unused (h : usable allowed parsed = false) :
    acceptStep modelId request allowed state parsed = .ok state := by
  have hkept : (keptOf allowed parsed).isEmpty = true := by simpa [usable] using h
  exact if_pos hkept

theorem acceptStep_of_addRecipe {db : Database} (h : usable allowed parsed = true)
    (hadd : state.1.addRecipe (acceptedRow modelId request state.1.recipeSeq parsed (keptOf allowed parsed)) = .ok db) :
    acceptStep modelId request allowed state parsed =
      .ok (db, state.2 ++ [acceptedCandidate state.1.recipeSeq parsed (keptOf allowed parsed)]) := by
  have hkept : ¬(keptOf allowed parsed).isEmpty = true := by simpa [usable] using h
  exact (if_neg hkept).trans (Runs.bind_eq_ok.mpr ⟨db, hadd, rfl⟩)

theorem foldlM_acceptStep (h : recipes.foldlM (acceptStep modelId request allowed) state = .ok state') :
    ∃ news, state'.2 = state.2 ++ news ∧
      List.Forall₂ (fun parsed dto => ∃ id, dto = acceptedCandidate id parsed (keptOf allowed parsed))
        (recipes.filter (usable allowed)) news := by
  induction recipes generalizing state with
  | nil =>
    cases h
    exact ⟨[], (List.append_nil _).symm, List.Forall₂.nil⟩
  | cons parsed recipes ih =>
    obtain ⟨mid, hmid, hrest⟩ := Runs.foldlM_cons_eq_ok.mp h
    obtain ⟨news, hnews, hpairs⟩ := ih hrest
    rcases acceptStep_cases hmid with ⟨hunused, rfl⟩ | ⟨hused, -, hcandidates⟩
    · refine ⟨news, hnews, ?_⟩
      rw [List.filter_cons_of_neg (by simp [hunused])]
      exact hpairs
    · refine ⟨acceptedCandidate state.1.recipeSeq parsed (keptOf allowed parsed) :: news, ?_, ?_⟩
      · rw [hnews, hcandidates, List.append_assoc]
        rfl
      · rw [List.filter_cons_of_pos hused]
        exact List.Forall₂.cons ⟨_, rfl⟩ hpairs

end Run

section Response
variable {modelId : Option String} {request : CandidateRequest} {recipes : List OAIRecipe} {db db' : Database}
variable {candidates : List CandidateRecipeDTO}

end Response

/-! A dish of rice with peanuts, where the shop prices only the rice. -/

def rice : Ingredient where
  id := 1
  canonicalName := "arroz"
  displayName := "Arroz"
  allergenCodes := some []

def peanut : Ingredient where
  id := 2
  canonicalName := "cacahuete"
  displayName := "Cacahuete"
  allergenCodes := some ["peanuts"]

def riceListed : OAIIngredient := { canonicalName := "arroz", displayName := "Arroz", quantity := 200, unit := "g" }

def peanutListed : OAIIngredient := { canonicalName := "cacahuete", displayName := "Cacahuete", quantity := 50, unit := "g" }

def riceDish : OAIRecipe where
  title := "Arroz con cacahuete"
  servings := 2
  mealTypes := [.lunch]
  ingredients := [riceListed, peanutListed]
  steps := ["Cocer el arroz y añadir el cacahuete."]

def riceRequest : CandidateRequest := { householdId := 1, requestedTypes := ["lunch"], allowList := ["arroz"] }

def riceDb : Database := { shop := { ingredients := [rice, peanut] }, households := [1] }

def riceSaved : Database where
  shop := riceDb.shop
  households := [1]
  recipes := [acceptedRow none riceRequest 1 riceDish [(riceListed, rice)]]
  recipeSeq := 2

def riceCandidate : CandidateRecipeDTO := acceptedCandidate 1 riceDish [(riceListed, rice)]

theorem persistAccepted_riceDish :
    persistAccepted none riceRequest [riceDish] (loadAllowedIngredients riceDb ["arroz"]) riceDb =
      .ok (riceSaved, [riceCandidate]) := by
  have hkept : keptOf (loadAllowedIngredients riceDb ["arroz"]) riceDish = [(riceListed, rice)] := by decide +kernel
  have hstorable : Storable riceDb (acceptedRow none riceRequest 1 riceDish [(riceListed, rice)]) := by decide +kernel
  have hadd : riceDb.addRecipe (acceptedRow none riceRequest 1 riceDish [(riceListed, rice)]) = .ok riceSaved :=
    if_pos hstorable
  refine Runs.foldlM_cons_eq_ok.mpr ⟨(riceSaved, [riceCandidate]), ?_, rfl⟩
  rw [acceptStep, hkept]
  exact Runs.bind_eq_ok.mpr ⟨riceSaved, hadd, rfl⟩

end CestaPlan.Candidates
