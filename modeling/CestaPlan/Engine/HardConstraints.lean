import CestaPlan.Engine.Facade

/-! What the hard filter guarantees of a recipe, in terms of the request. -/

namespace CestaPlan.Engine

section Allergens
variable {py : Runtime} {values : List String} {catalog : List CatalogProductDTO} {recipe : CandidateRecipeDTO}
  {members : List MemberDTO}

theorem mem_lowerSet {s : String} : s ∈ lowerSet py values ↔ ∃ v ∈ values, Text.strip v ≠ "" ∧ py.fold v = s := by
  simp [lowerSet, and_assoc]

theorem mem_canonAllergens {code : String} :
    code ∈ canonAllergens py values ↔ ∃ v ∈ values, py.fold v ≠ "" ∧ canonAllergen (py.fold v) = code := by
  simp [canonAllergens, and_assoc]

theorem mem_canonAllergens_append {values' : List String} {code : String} :
    code ∈ canonAllergens py (values ++ values') ↔
      code ∈ canonAllergens py values ∨ code ∈ canonAllergens py values' := by
  simp only [mem_canonAllergens, List.mem_append, or_and_right, exists_or]

theorem mem_canonAllergens_lowerSet {code : String} :
    code ∈ canonAllergens py (lowerSet py values) ↔ code ∈ canonAllergens py values := by
  simp only [mem_canonAllergens, mem_lowerSet]
  constructor
  · rintro ⟨-, ⟨v, hv, -, rfl⟩, hne, hcode⟩
    rw [py.fold_fold] at hne hcode
    exact ⟨v, hv, hne, hcode⟩
  · rintro ⟨v, hv, hne, hcode⟩
    have hstrip : Text.strip v ≠ "" := fun h => hne (by rw [Runtime.fold, h, py.lower_empty])
    exact ⟨py.fold v, ⟨v, hv, hstrip, rfl⟩, by rwa [py.fold_fold], by rwa [py.fold_fold]⟩

theorem mem_byIngredient {name allergen : String} : allergen ∈ (byIngredient py catalog).getD name [] ↔
    ∃ p ∈ catalog, p.canonicalName = name ∧ allergen ∈ lowerSet py p.allergens := by
  induction catalog using List.reverseRecOn with
  | nil => simp [byIngredient, Dict.getD]
  | append_singleton catalog p ih =>
    rw [byIngredient, List.foldl_append, ← byIngredient, List.foldl_cons, List.foldl_nil, Dict.getD, Dict.get?_set]
    by_cases h : name = p.canonicalName
    · subst h
      simp [ih, or_and_right, exists_or]
    · rw [if_neg h, ← Dict.getD, ih]
      have h' : p.canonicalName ≠ name := fun he => h he.symm
      simp [or_and_right, exists_or, h']

theorem mem_derivedAllergens {code : String} : code ∈ derivedAllergens py catalog recipe ↔
    code ∈ canonAllergens py recipe.allergensDeclared ∨
      ∃ ing ∈ recipe.ingredients, ∃ p ∈ catalog, p.canonicalName = ing.canonicalName ∧
        code ∈ canonAllergens py p.allergens := by
  rw [derivedAllergens, mem_canonAllergens_append, mem_canonAllergens_lowerSet]
  refine or_congr_right ?_
  constructor
  · intro hmem
    obtain ⟨v, hv, hne, hcode⟩ := mem_canonAllergens.mp hmem
    obtain ⟨ing, hing, hv⟩ := List.mem_flatMap.mp hv
    obtain ⟨p, hp, hname, hv⟩ := mem_byIngredient.mp hv
    exact ⟨ing, hing, p, hp, hname, mem_canonAllergens_lowerSet.mp (mem_canonAllergens.mpr ⟨v, hv, hne, hcode⟩)⟩
  · rintro ⟨ing, hing, p, hp, hname, hmem⟩
    obtain ⟨v, hv, hne, hcode⟩ := mem_canonAllergens.mp (mem_canonAllergens_lowerSet.mpr hmem)
    exact mem_canonAllergens.mpr
      ⟨v, List.mem_flatMap.mpr ⟨ing, hing, mem_byIngredient.mpr ⟨p, hp, hname, hv⟩⟩, hne, hcode⟩

theorem strictAllergens_ne_nil_iff :
    strictAllergens py members ≠ [] ↔ ∃ m ∈ members, ∃ code ∈ m.strictAllergenCodes, py.fold code ≠ "" := by
  constructor
  · intro h
    obtain ⟨_, hmem⟩ := List.exists_mem_of_ne_nil _ h
    obtain ⟨m, hm, hmem⟩ := List.mem_flatMap.mp hmem
    obtain ⟨code, hcode, hne, -⟩ := mem_canonAllergens.mp hmem
    exact ⟨m, hm, code, hcode, hne⟩
  · rintro ⟨m, hm, code, hcode, hne⟩
    exact List.ne_nil_of_mem (List.mem_flatMap.mpr ⟨m, hm, mem_canonAllergens.mpr ⟨code, hcode, hne, rfl⟩⟩)

theorem validateAllergens_valid_iff : (validateAllergens py catalog recipe members).valid = true ↔
    (∀ m ∈ members, ∀ code ∈ canonAllergens py m.allergens, code ∉ derivedAllergens py catalog recipe) ∧
      ((∃ m ∈ members, ∃ code ∈ m.strictAllergenCodes, py.fold code ≠ "") →
        ∀ ing ∈ recipe.ingredients, ing.allergenAssessed = true) := by
  rw [← strictAllergens_ne_nil_iff]
  simp only [validateAllergens, Bool.and_eq_true, List.isEmpty_iff]
  refine and_congr ?_ ?_
  · rw [← List.length_eq_zero_iff, allergenConflict, List.length_insertionSort, List.length_eq_zero_iff,
      List.filter_eq_nil_iff]
    simp only [List.contains_iff_mem, householdAllergens, List.mem_flatMap, not_exists, not_and]
    exact ⟨fun h m hm code hcode hmem => h code hmem m hm hcode, fun h code hmem m hm hcode => h m hm code hcode hmem⟩
  · by_cases hs : strictAllergens py members = []
    · simp [hs]
    · rw [if_neg hs, ← List.length_eq_zero_iff, unassessedIngredients, List.length_insertionSort,
        List.length_eq_zero_iff]
      simp [hs]

end Allergens

section Diet
variable {py : Runtime} {catalog : List CatalogProductDTO} {recipe : CandidateRecipeDTO} {members : List MemberDTO}

/-- A restriction forbids the tokens of its diet, or is itself the token that it forbids. -/
def Forbids (restriction token : String) : Prop :=
  match restrictionForbidden.lookup (canonDiet restriction) with
  | some forbidden => token ∈ forbidden
  | none => token = restriction

theorem restrictionViolation_eq_none_iff {tokens : List String} {member restriction : String} :
    restrictionViolation tokens member restriction = none ↔ ∀ token ∈ tokens, ¬Forbids restriction token := by
  unfold restrictionViolation Forbids
  cases restrictionForbidden.lookup (canonDiet restriction) with
  | some forbidden =>
    simp only [List.isEmpty_iff, ite_eq_left_iff, reduceCtorEq, imp_false, not_not, List.filter_eq_nil_iff,
      List.contains_iff_mem]
    exact ⟨fun h t ht hf => h t hf ht, fun h t hf ht => h t ht hf⟩
  | none =>
    simp only [ite_eq_right_iff, reduceCtorEq, imp_false, List.contains_iff_mem]
    exact ⟨fun h t ht heq => h (heq ▸ ht), fun h hmem => h restriction hmem rfl⟩

theorem validateDiet_valid_iff : (validateDiet py catalog recipe members).valid = true ↔
    ∀ m ∈ members, ∀ restriction ∈ lowerSet py m.hardRestrictions,
      ∀ token ∈ recipeTokens py catalog recipe, ¬Forbids restriction token := by
  simp only [validateDiet, List.isEmpty_iff, List.flatMap_eq_nil_iff, List.filterMap_eq_nil_iff,
    restrictionViolation_eq_none_iff]

end Diet

/-- The recipe satisfies every hard constraint of the request at the slot. -/
structure HardValid (py : Runtime) (inp : PlanInput) (slot : MealSlot) (recipe : CandidateRecipeDTO) : Prop where
  mealType : slot.mealType ∈ recipe.mealTypes
  quickEnough : ∀ most, slot.maximumPreparationMinutes = some most →
    recipe.preparationMinutes + recipe.cookingMinutes ≤ most
  equipment : ∀ e ∈ recipe.requiredEquipment, e ∈ inp.availableEquipment
  declared : ∀ m ∈ inp.members, ∀ code ∈ canonAllergens py m.allergens,
    code ∉ canonAllergens py recipe.allergensDeclared
  derived : ∀ m ∈ inp.members, ∀ code ∈ canonAllergens py m.allergens,
    ∀ ing ∈ recipe.ingredients, ∀ p ∈ inp.catalog, p.canonicalName = ing.canonicalName →
      code ∉ canonAllergens py p.allergens
  assessed : ∀ m ∈ inp.members, ∀ code ∈ m.strictAllergenCodes, py.fold code ≠ "" →
    ∀ ing ∈ recipe.ingredients, ing.allergenAssessed = true
  permitted : ∀ m ∈ inp.members, ∀ restriction ∈ lowerSet py m.hardRestrictions,
    ∀ token ∈ recipeTokens py inp.catalog recipe, ¬Forbids restriction token

theorem mem_feasible_iff {py : Runtime} {inp : PlanInput} {slot : MealSlot} {recipe : CandidateRecipeDTO} :
    recipe ∈ inp.feasible py slot ↔ recipe ∈ inp.candidates ∧ HardValid py inp slot recipe := by
  simp only [PlanInput.feasible, PlanInput.validRecipes, List.mem_filter, PlanInput.hardValid, PlanInput.suits,
    Bool.and_eq_true, validateAllergens_valid_iff, validateDiet_valid_iff, List.all_eq_true, List.contains_iff_mem,
    Option.all_eq_true, decide_eq_true_eq, mem_derivedAllergens, not_or, not_exists, not_and]
  constructor
  · rintro ⟨⟨hc, ⟨⟨hallergens, hassessed⟩, hdiet⟩, hequipment⟩, htype, hquick⟩
    exact ⟨hc,
      { mealType := htype
        quickEnough := hquick
        equipment := hequipment
        declared := fun m hm code hcode => (hallergens m hm code hcode).1
        derived := fun m hm code hcode => (hallergens m hm code hcode).2
        assessed := fun m hm code hcode hne => hassessed ⟨m, hm, code, hcode, hne⟩
        permitted := hdiet }⟩
  · rintro ⟨hc, h⟩
    refine ⟨⟨hc, ⟨⟨fun m hm code hcode => ⟨h.declared m hm code hcode, h.derived m hm code hcode⟩, ?_⟩, h.permitted⟩,
      h.equipment⟩, h.mealType, h.quickEnough⟩
    rintro ⟨m, hm, code, hcode, hne⟩
    exact h.assessed m hm code hcode hne

theorem feasible_ne_nil_iff {py : Runtime} {inp : PlanInput} {slot : MealSlot} :
    inp.feasible py slot ≠ [] ↔ ∃ recipe ∈ inp.candidates, HardValid py inp slot recipe := by
  constructor
  · intro h
    obtain ⟨recipe, hmem⟩ := List.exists_mem_of_ne_nil _ h
    exact ⟨recipe, mem_feasible_iff.mp hmem⟩
  · rintro ⟨recipe, hmem⟩
    exact List.ne_nil_of_mem (mem_feasible_iff.mpr hmem)

end CestaPlan.Engine
