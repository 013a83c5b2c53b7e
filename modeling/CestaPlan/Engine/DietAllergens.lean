import CestaPlan.Engine.HardConstraints

/-! The allergens behind a diet. The allergen validator compares canonical codes, while the diets have their own tables, which are
    compared with the tokens of a recipe as they are spelled. -/

namespace CestaPlan.Engine

/-- The allergens of what a diet excludes, as canonical codes. -/
def dietAllergens : List (String × List String) :=
  [("vegan", ["milk", "egg", "fish", "crustacean", "mollusc"]),
   ("vegetarian", ["fish", "crustacean", "mollusc"]),
   ("gluten_free", ["gluten"]),
   ("lactose_free", ["milk"]),
   ("kosher", ["crustacean", "mollusc"])]

def allergensBehind (diet : String) : List String := (dietAllergens.lookup diet).getD []

def dietTable (diet : String) : List String := (restrictionForbidden.lookup diet).getD []

/-- A spelling of an allergen behind the diet that is not in the table of the diet. -/
def Missed (diet code : String) : Prop :=
  canonAllergen code ∈ allergensBehind diet ∧ code ∉ dietTable diet

instance {diet code : String} : Decidable (Missed diet code) := inferInstanceAs (Decidable (_ ∧ _))

section Codes
variable (py : Runtime) (catalog : List CatalogProductDTO) (recipe : CandidateRecipeDTO)

/-- The allergen codes of a recipe as they are spelled: the declared ones, and those of the products of its ingredients' names. -/
def allergenCodes : List String :=
  lowerSet py recipe.allergensDeclared ++ recipe.ingredients.flatMap fun ing => (byIngredient py catalog).getD ing.canonicalName []

/-- Where a recipe is rejected for an allergen behind a restriction, it is rejected for every member of any household who keeps
    the restriction. -/
def ValidatorsAgree (restriction : String) : Prop :=
  ∀ code ∈ allergensBehind (canonDiet (py.fold restriction)), ∀ members,
    .allergen code recipe.title ∈ (validateAllergens py catalog recipe members).hardViolations →
      ∀ household, ∀ m ∈ household, restriction ∈ m.hardRestrictions →
        (validateDiet py catalog recipe household).valid = false ∧
          ∃ hits, .restriction (canonDiet (py.fold restriction)) hits m.memberAlias ∈
            (validateDiet py catalog recipe household).hardViolations

variable {py catalog recipe} {restriction code diet : String}

theorem exists_table (hcode : code ∈ allergensBehind diet) :
    restrictionForbidden.lookup diet = some (dietTable diet) ∧ code ≠ "" := by
  unfold allergensBehind at hcode
  cases hlookup : dietAllergens.lookup diet with
  | none => simp [hlookup] at hcode
  | some behind =>
    rw [hlookup, Option.getD_some] at hcode
    obtain ⟨l₁, l₂, heq, -⟩ := List.lookup_eq_some_iff.mp hlookup
    have hmem : (diet, behind) ∈ dietAllergens := by simp [heq]
    have htables : ∀ p ∈ dietAllergens, restrictionForbidden.lookup p.1 = some (dietTable p.1) ∧ "" ∉ p.2 := by decide
    obtain ⟨htable, hblank⟩ := htables _ hmem
    exact ⟨htable, fun h => hblank (h ▸ hcode)⟩

theorem allergen_mem_iff {members : List MemberDTO} :
    .allergen code recipe.title ∈ (validateAllergens py catalog recipe members).hardViolations ↔
      code ∈ derivedAllergens py catalog recipe ∧ ∃ m ∈ members, code ∈ canonAllergens py m.allergens := by
  simp only [validateAllergens, List.mem_append, List.mem_map, allergenConflict, List.mem_insertionSort, List.mem_filter,
    List.contains_iff_mem, householdAllergens, List.mem_flatMap]
  constructor
  · rintro (⟨c, hc, heq⟩ | hmem)
    · cases heq
      exact hc
    · split at hmem <;> simp at hmem
  · exact fun h => .inl ⟨code, h, rfl⟩

theorem mem_codes : code ∈ allergenCodes py catalog recipe ↔
    code ∈ lowerSet py recipe.allergensDeclared ∨
      ∃ ing ∈ recipe.ingredients, ∃ p ∈ catalog, p.canonicalName = ing.canonicalName ∧ code ∈ lowerSet py p.allergens := by
  simp only [allergenCodes, List.mem_append, List.mem_flatMap, mem_byIngredient]

theorem fold_code (hcode : code ∈ allergenCodes py catalog recipe) : py.fold code = code := by
  rcases mem_codes.mp hcode with hdeclared | ⟨ing, -, p, -, -, hproduct⟩
  · obtain ⟨v, -, -, rfl⟩ := mem_lowerSet.mp hdeclared
    exact py.fold_fold v
  · obtain ⟨v, -, -, rfl⟩ := mem_lowerSet.mp hproduct
    exact py.fold_fold v

theorem mem_derived_iff : code ∈ derivedAllergens py catalog recipe ↔
    ∃ c ∈ allergenCodes py catalog recipe, c ≠ "" ∧ canonAllergen c = code := by
  have hderived : derivedAllergens py catalog recipe = canonAllergens py (allergenCodes py catalog recipe) := rfl
  rw [hderived, mem_canonAllergens]
  refine exists_congr fun c => and_congr_right fun hc => ?_
  rw [fold_code hc]

theorem codes_subset (hcode : code ∈ allergenCodes py catalog recipe) : code ∈ recipeTokens py catalog recipe := by
  rcases List.mem_append.mp hcode with hdeclared | hproduct
  · exact List.mem_append_left _ (List.mem_append_right _ hdeclared)
  · obtain ⟨ing, hing, hmem⟩ := List.mem_flatMap.mp hproduct
    refine List.mem_append_right _ (List.mem_flatMap.mpr ⟨ing, hing, ?_⟩)
    exact List.mem_append_left _ (List.mem_append_right _ hmem)

theorem exists_restrictionViolation_iff {tokens : List String} {member : String}
    (htable : restrictionForbidden.lookup (canonDiet restriction) = some (dietTable (canonDiet restriction))) :
    (∃ hits, restrictionViolation tokens member restriction = some (.restriction (canonDiet restriction) hits member)) ↔
      ∃ token ∈ tokens, token ∈ dietTable (canonDiet restriction) := by
  simp only [restrictionViolation, htable]
  constructor
  · rintro ⟨hits, h⟩
    split at h
    · cases h
    · next hhit =>
      obtain ⟨token, htoken⟩ := List.exists_mem_of_ne_nil _ (fun hnil => hhit (List.isEmpty_iff.mpr hnil))
      obtain ⟨hmem, htokens⟩ := List.mem_filter.mp htoken
      exact ⟨token, List.contains_iff_mem.mp htokens, hmem⟩
  · rintro ⟨token, htokens, hmem⟩
    refine ⟨_, if_neg fun hhit => ?_⟩
    have hnil : (dietTable (canonDiet restriction)).filter tokens.contains = [] := List.isEmpty_iff.mp hhit
    exact List.filter_eq_nil_iff.mp hnil token hmem (List.contains_iff_mem.mpr htokens)

theorem hardViolation_mem_iff {household : List MemberDTO} {violation : HardViolation} :
    violation ∈ (validateDiet py catalog recipe household).hardViolations ↔ ∃ m ∈ household, ∃ r ∈ lowerSet py m.hardRestrictions,
      restrictionViolation (recipeTokens py catalog recipe) m.memberAlias r = some violation := by
  simp [validateDiet]

theorem rejected_iff (hcode : code ∈ allergensBehind (canonDiet (py.fold restriction))) :
    (∀ household, ∀ m ∈ household, restriction ∈ m.hardRestrictions →
        (validateDiet py catalog recipe household).valid = false ∧
          ∃ hits, .restriction (canonDiet (py.fold restriction)) hits m.memberAlias ∈
            (validateDiet py catalog recipe household).hardViolations) ↔
      ∃ token ∈ recipeTokens py catalog recipe, token ∈ dietTable (canonDiet (py.fold restriction)) := by
  obtain ⟨htable, -⟩ := exists_table hcode
  constructor
  · intro h
    let dieting : MemberDTO := { memberAlias := "", hardRestrictions := [restriction] }
    obtain ⟨-, hits, hhits⟩ := h [dieting] dieting (List.mem_singleton_self _) (List.mem_singleton_self _)
    obtain ⟨m, hm, r, hr, hviolation⟩ := hardViolation_mem_iff.mp hhits
    obtain rfl := List.mem_singleton.mp hm
    obtain ⟨v, hv, -, rfl⟩ := mem_lowerSet.mp hr
    obtain rfl := List.mem_singleton.mp hv
    exact (exists_restrictionViolation_iff htable).mp ⟨hits, hviolation⟩
  · intro htoken household m hm hrestriction
    have hstrip : Text.strip restriction ≠ "" := by
      intro hblank
      have hnone : allergensBehind (canonDiet "") = [] := by decide
      rw [Runtime.fold, hblank, py.lower_empty, hnone] at hcode
      cases hcode
    have hr : py.fold restriction ∈ lowerSet py m.hardRestrictions := mem_lowerSet.mpr ⟨restriction, hrestriction, hstrip, rfl⟩
    obtain ⟨hits, hviolation⟩ := (exists_restrictionViolation_iff htable).mpr htoken
    have hmem := hardViolation_mem_iff.mpr ⟨m, hm, _, hr, hviolation⟩
    refine ⟨?_, hits, hmem⟩
    exact Bool.eq_false_iff.mpr fun hvalid => List.ne_nil_of_mem hmem (List.isEmpty_iff.mp hvalid)

/-- The two validators agree on a recipe exactly if none of its allergen codes is spelled as the diet's table misses it, or the
    table has another of its tokens. -/
theorem validatorsAgree_iff : ValidatorsAgree py catalog recipe restriction ↔
    (∀ code ∈ allergenCodes py catalog recipe, ¬ Missed (canonDiet (py.fold restriction)) code) ∨
      ∃ token ∈ recipeTokens py catalog recipe, token ∈ dietTable (canonDiet (py.fold restriction)) := by
  constructor
  · intro h
    by_cases hmissed : ∀ code ∈ allergenCodes py catalog recipe, ¬ Missed (canonDiet (py.fold restriction)) code
    · exact .inl hmissed
    · push Not at hmissed
      obtain ⟨code, hcode, hbehind, -⟩ := hmissed
      have hne : code ≠ "" := fun hblank => (exists_table hbehind).2 (by rw [hblank]; rfl)
      let allergic : MemberDTO := { memberAlias := "", allergens := [code] }
      have hderived : canonAllergen code ∈ derivedAllergens py catalog recipe := mem_derived_iff.mpr ⟨code, hcode, hne, rfl⟩
      have hallergic : canonAllergen code ∈ canonAllergens py allergic.allergens :=
        mem_canonAllergens.mpr ⟨code, List.mem_singleton_self _, by rwa [fold_code hcode], by rw [fold_code hcode]⟩
      exact .inr ((rejected_iff hbehind).mp
        (h _ hbehind [allergic] (allergen_mem_iff.mpr ⟨hderived, allergic, List.mem_singleton_self _, hallergic⟩)))
  · intro h code hbehind members hrejected
    refine (rejected_iff hbehind).mpr ?_
    rcases h with hcodes | htoken
    · obtain ⟨c, hc, -, rfl⟩ := mem_derived_iff.mp (allergen_mem_iff.mp hrejected).1
      refine ⟨c, codes_subset hc, ?_⟩
      by_contra hnot
      exact hcodes c hc ⟨hbehind, hnot⟩
    · exact htoken

end Codes

/-- A custard that declares its milk in Spanish. -/
def custard : CandidateRecipeDTO where
  recipeId := "r1"
  title := "Natillas"
  mealTypes := [.snack]
  ingredients := [{ canonicalName := "natillas", displayName := "Natillas", quantity := 125, unit := "g" }]
  allergensDeclared := ["leche"]

/-- It is rejected for an allergy to milk, and served to the member who takes no lactose. -/
theorem not_validatorsAgree_custard : ¬ ValidatorsAgree (Runtime.replay []) [] custard "sin_lactosa" ∧
    (validateAllergens (Runtime.replay []) [] custard [{ memberAlias := "Ana", allergens := ["milk"] }]).valid = false ∧
    (validateDiet (Runtime.replay []) [] custard [{ memberAlias := "Luis", hardRestrictions := ["sin_lactosa"] }]).valid = true := by
  refine ⟨fun h => ?_, by decide +kernel, by decide +kernel⟩
  obtain ⟨hvalid, -⟩ := h "milk" (by decide +kernel) [{ memberAlias := "Ana", allergens := ["milk"] }] (by decide +kernel)
    [{ memberAlias := "Luis", hardRestrictions := ["sin_lactosa"] }] _ (List.mem_singleton_self _) (List.mem_singleton_self _)
  exact absurd hvalid (by decide +kernel)

end CestaPlan.Engine
