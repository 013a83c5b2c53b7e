import CestaPlan.Candidates.Proposals
import CestaPlan.Catalog.Entries
import CestaPlan.Catalog.PlanConversions
import CestaPlan.Engine.Planning
import CestaPlan.Households.Endpoints
import Mathlib

/-! The input of the engine, read off the rows of a household (`services/planning_context.py`), and what they say of the meals that
    are planned. -/

namespace CestaPlan.Plans.Context
open Engine Catalog Updates
open Calendar (Instant dayOf)
open Candidates (Recipe Fault CandidateRequest CandidateBundle textOr mealTypeName seedGetCandidates seedCandidate ingredientMeta
  seedIngredient)
open Households (DietaryProfile PreferenceIn NutritionGoalIn)

/-! ### The tables -/

structure HouseholdMember where
  id : Nat
  householdId : Nat
  /-- The hexadecimal digits of the UUID. -/
  publicId : String
  displayName : Option String := none
  isEater : Bool := true
  relativeServing : ℚ := 1
  joinedAt : Instant
  dietaryProfiles : List DietaryProfile := []

structure RecipeFeedback where
  householdId : Nat
  recipeId : Nat
  sentiment : String

structure FavoriteRecipe where
  householdId : Nat
  recipeId : Nat

structure Equipment where
  householdId : Nat
  equipmentCode : String
  available : Bool := true

structure PantryItem where
  householdId : Nat
  ingredientId : Option Nat
  quantity : ℚ
  unit : String
  expiresAt : Option Instant := none
  deletedAt : Option Instant := none

/-- The requirements are rows that their DTO accepts. -/
structure MealPlan where
  householdId : Nat
  retailerId : Option Nat
  startDate : Date
  endDate : Date
  budgetAmount : Option ℚ := none
  budgetPriority : Priority := .waste
  currency : String := "EUR"
  requirements : List MealRequirementDTO := []

structure Tables where
  library : Candidates.Database := {}
  members : List HouseholdMember := []
  feedback : List RecipeFeedback := []
  favorites : List FavoriteRecipe := []
  equipment : List Equipment := []
  pantry : List PantryItem := []

/-! ### Members -/

/-- The names that `_unique_alias` tries, in order. -/
def aliasAt (base : String) : Nat → String
  | 0 => base
  | n + 1 => base ++ "-" ++ toString (n + 2)

def HouseholdMember.baseName (member : HouseholdMember) : String :=
  textOr member.displayName ("comensal-" ++ String.ofList (member.publicId.toList.take 8))

/-- `_unique_alias`. Of one name more than have been seen, one is free. -/
def uniqueAlias (member : HouseholdMember) (seen : List String) : String :=
  (((List.range (seen.length + 1)).map (aliasAt member.baseName)).find? (· ∉ seen)).getD member.baseName

section Members
variable (t : Tables) (householdId : Nat)

def eaters : List HouseholdMember := t.members.filter fun m => m.householdId = householdId && m.isEater

/-- `_rejected_recipe_ids` -/
def rejectedRecipeIds : List String :=
  ((t.feedback.filter fun f => f.householdId = householdId && ["reject", "no_show"].contains f.sentiment).map (toString ·.recipeId)).eraseDups

def hardRestrictions (profile : DietaryProfile) : List String :=
  (profile.dietType.toList.filter (· ≠ "") ++
    (profile.foodPreferences.rows.filter (·.2.sentiment = .avoid)).map (·.2.subjectRef)).eraseDups

def softPreferences (profile : DietaryProfile) : List String :=
  profile.foodPreferences.rows.filterMap fun row => match row.2.sentiment with
    | .avoid => none
    | .dislike => some ("avoid:" ++ row.2.subjectRef)
    | .like => some row.2.subjectRef

def memberDTO (rejected : List String) (memberAlias : String) (member : HouseholdMember) : MemberDTO :=
  let profile := member.dietaryProfiles.head?.toList
  let allergies := profile.flatMap (·.allergies.rows)
  { memberAlias := memberAlias
    relativeServing := member.relativeServing
    allergens := (allergies.map (·.2.allergenCode)).eraseDups
    strictAllergenCodes := ((allergies.filter (·.2.severity ≠ .intolerance)).map (·.2.allergenCode)).eraseDups
    hardRestrictions := profile.flatMap hardRestrictions
    softPreferences := profile.flatMap softPreferences
    rejectedRecipeIds := rejected }

/-- One more member, and the aliases so far. -/
def addMember (rejected : List String) (dtos : List MemberDTO) (member : HouseholdMember) : List MemberDTO :=
  dtos ++ [memberDTO rejected (uniqueAlias member (dtos.map (·.memberAlias))) member]

/-- `order_by(joined_at, id)` -/
def inOrder (members : List HouseholdMember) : List HouseholdMember :=
  members.insertionSort fun a b => a.joinedAt < b.joinedAt ∨ a.joinedAt = b.joinedAt ∧ a.id ≤ b.id

/-- `_build_members` -/
def buildMembers : List MemberDTO :=
  (inOrder (eaters t householdId)).foldl (addMember (rejectedRecipeIds t householdId)) []

/-! ### The rest of the input -/

/-- `getattr(profile, column)` -/
def targetOf (targets : NutritionGoalIn) : Macro → Option ℚ
  | .kcal => targets.energyTargetKcal
  | .proteinG => targets.proteinTargetG
  | .carbsG => targets.carbTargetG
  | .fatG => targets.fatTargetG

/-- `_build_nutrition_target` -/
def buildNutritionTarget (py : Runtime) : Option NutritionDTO :=
  let goals := fun m : Macro => (eaters t householdId).filterMap fun member => do
    let profile ← member.dietaryProfiles.head?
    let value ← targetOf profile.targets m
    return py.mul value (if member.relativeServing = 0 then 1 else member.relativeServing)
  let total := fun m => if (goals m).isEmpty then none else some ((goals m).foldl py.add 0)
  if [Macro.kcal, .proteinG, .carbsG, .fatG].all fun m => (total m).isNone then none
  else some { kcal := total .kcal, proteinG := total .proteinG, carbsG := total .carbsG, fatG := total .fatG }

/-- `_build_pantry` -/
def buildPantry : List PantryItemDTO :=
  (t.pantry.filter fun item => item.householdId = householdId && item.deletedAt.isNone).filterMap fun item => do
    let ingredient ← row? (·.id) t.library.shop.ingredients (← item.ingredientId)
    return { canonicalName := ingredient.canonicalName
             quantity := item.quantity
             unit := item.unit
             expiresAt := item.expiresAt.map dayOf }

/-- `_build_favorites` -/
def buildFavorites : List String := ((t.favorites.filter (·.householdId = householdId)).map (toString ·.recipeId)).eraseDups

/-- `_build_equipment` -/
def buildEquipment : List String :=
  ((t.equipment.filter fun e => e.householdId = householdId && e.available).map (·.equipmentCode)).eraseDups

end Members

/-- `_weights_for_priority` -/
def weightsForPriority : Priority → ScoringWeights
  | .nutrition => { nutritionDeviation := 12 }
  | _ => {}

/-- The request to the provider of candidates: what the library reads of it. -/
def requestOf (catalog : List CatalogProductDTO) (plan : MealPlan) : CandidateRequest where
  householdId := plan.householdId
  requestedTypes := ((plan.requirements.filter (0 < ·.requestedCount)).map fun r => mealTypeName r.mealType).eraseDups
  allowList := (catalog.map (·.canonicalName)).eraseDups.insertionSort (· ≤ ·)

section Input
variable (py : Runtime) (settings : Catalog.Settings) (getCandidates : CandidateRequest → Except Fault CandidateBundle) (t : Tables)
  (plan : MealPlan)

def buildPlanInput (seed : Int) (asOf : Date) : Except Fault PlanInput := do
  let catalog := buildCatalog settings t.library.shop plan.retailerId
  let bundle ← getCandidates (requestOf catalog plan)
  return { members := buildMembers t plan.householdId
           mealRequirements := plan.requirements
           budget := { amount := plan.budgetAmount.getD 0, currency := plan.currency, priority := plan.budgetPriority }
           dateRange := (plan.startDate, plan.endDate)
           availableEquipment := buildEquipment t plan.householdId
           catalog := catalog
           candidates := bundle.candidates
           pantry := buildPantry t plan.householdId
           favorites := buildFavorites t plan.householdId
           conversions := planConversions py t.library.shop
           nutritionTarget := buildNutritionTarget t plan.householdId py
           weights := weightsForPriority plan.budgetPriority
           seed := seed
           asOf := some asOf }

end Input

/-! ### Names -/

theorem aliasAt_injective (base : String) : Function.Injective (aliasAt base) := by
  have hlength (n : Nat) : base.length < (aliasAt base (n + 1)).length := by
    simp only [aliasAt, String.length_append]
    have hdash : "-".length = 1 := rfl
    omega
  intro m n h
  cases m with
  | zero =>
    cases n with
    | zero => rfl
    | succ n => exact absurd (congrArg String.length h) (hlength n).ne
  | succ m =>
    cases n with
    | zero => exact absurd (congrArg String.length h) (hlength m).ne'
    | succ n =>
      have hrepr : n + 2 = m + 2 := Nat.repr_inj.mp ((String.append_right_inj _).mp h).symm
      omega

/-- An alias is new: as many names and one more cannot all have been seen. -/
theorem uniqueAlias_not_mem (member : HouseholdMember) (seen : List String) : uniqueAlias member seen ∉ seen := by
  have hnodup := List.nodup_range (n := seen.length + 1) |>.map (aliasAt_injective member.baseName)
  obtain ⟨name, hmem, hnew⟩ : ∃ name ∈ (List.range (seen.length + 1)).map (aliasAt member.baseName), name ∉ seen := by
    by_contra h
    push Not at h
    have hle := (List.subperm_of_subset hnodup h).length_le
    simp at hle
  rw [uniqueAlias]
  cases hfound : ((List.range (seen.length + 1)).map (aliasAt member.baseName)).find? (· ∉ seen) with
  | none => exact absurd hnew (by simpa using List.find?_eq_none.mp hfound name hmem)
  | some a => simpa using List.find?_some hfound

/-- However many members share a name, or have one that ends in a number, their aliases are distinct. -/
theorem nodup_buildMembers (t : Tables) (householdId : Nat) : ((buildMembers t householdId).map (·.memberAlias)).Nodup := by
  unfold buildMembers
  generalize inOrder (eaters t householdId) = members
  induction members using List.reverseRecOn with
  | nil => exact List.nodup_nil
  | append_singleton members member ih =>
    rw [List.foldl_append, List.foldl_cons, List.foldl_nil, addMember, List.map_append, List.map_singleton]
    exact ih.append (List.nodup_singleton _) (List.disjoint_singleton.mpr (uniqueAlias_not_mem member _))

/-! ### From the rows to the meals -/

section Rows
variable {t : Tables} {householdId : Nat} {member : HouseholdMember} {settings : Catalog.Settings} {shop : Shop}
  {retailerId : Option Nat} {recipe : Recipe} {c : CandidateRecipeDTO}

/-- Every eater of the household has an entry of its own. -/
theorem exists_memberDTO (hmember : member ∈ t.members) (hhousehold : member.householdId = householdId) (heater : member.isEater = true) :
    ∃ name, memberDTO (rejectedRecipeIds t householdId) name member ∈ buildMembers t householdId := by
  have hall : ∀ members : List HouseholdMember, ∀ m ∈ members, ∃ name, memberDTO (rejectedRecipeIds t householdId) name m ∈
      members.foldl (addMember (rejectedRecipeIds t householdId)) [] := by
    intro members
    induction members using List.reverseRecOn with
    | nil => simp
    | append_singleton members last ih =>
      intro m hm
      rw [List.foldl_append, List.foldl_cons, List.foldl_nil, addMember]
      rcases List.mem_append.mp hm with hm | hm
      · obtain ⟨name, hname⟩ := ih m hm
        exact ⟨name, List.mem_append_left _ hname⟩
      · obtain rfl := List.mem_singleton.mp hm
        exact ⟨_, List.mem_append_right _ List.mem_cons_self⟩
  exact hall _ member ((List.mem_insertionSort _).mpr (by simp [eaters, hmember, hhousehold, heater]))

theorem mem_foldl_union {α : Type} {f : α → List String} {xs : List α} {codes : List String} {code : String} :
    code ∈ xs.foldl (fun codes x => codes ∪ f x) codes ↔ code ∈ codes ∨ ∃ x ∈ xs, code ∈ f x := by
  induction xs generalizing codes with
  | nil => simp
  | cons x xs ih => simp [ih, or_assoc]

/-- The chain sells the product under the name: it is mapped to an ingredient of that name, and has a price. -/
structure SoldAs (settings : Catalog.Settings) (shop : Shop) (retailerId : Option Nat) (name : String) (product : Product) : Prop where
  mapped : ∃ m ∈ shop.mappings, m.isActive = true ∧ row? (·.id) shop.products m.productId = some product ∧
    ∃ ing, row? (·.id) shop.ingredients m.ingredientId = some ing ∧ ing.canonicalName = name
  kept : product.deletedAt = none
  priced : ((latestPrices settings shop retailerId).get? product.id).isSome

/-- What is sold under a name is in the catalogue, with its allergens. -/
theorem SoldAs.exists_entry {name : String} {product : Product} (h : SoldAs settings shop retailerId name product) :
    ∃ entry ∈ buildCatalog settings shop retailerId, entry.canonicalName = name ∧
      ∀ nutr ∈ product.nutrition, nutr.allergens.getD [] ⊆ entry.allergens := by
  obtain ⟨m, hm, hactive, hproduct, ing, hing, hname⟩ := h.mapped
  obtain ⟨price, hprice⟩ := Option.isSome_iff_exists.mp h.priced
  have hrow : product ∈ productsOf shop m.ingredientId := mem_productsOf.mpr ⟨m, hm, hactive, rfl, hproduct, h.kept⟩
  obtain ⟨entry, hentry⟩ : ∃ entry, catalogProduct settings _ ing _ = some entry :=
    exists_catalogProduct_iff.mpr ⟨product, hrow, price, hprice⟩
  refine ⟨entry, ?_, (catalogProduct_canonicalName hentry).trans hname, ?_⟩
  · rw [buildCatalog_eq, List.mem_filterMap]
    refine ⟨m.ingredientId, ?_, by rw [hing]; exact hentry⟩
    rw [List.mem_eraseDups]
    exact List.mem_map.mpr ⟨(m, product), mem_mappedProducts.mpr ⟨hm, hactive, hproduct, h.kept⟩, rfl⟩
  · intro nutr hnutr code hcode
    simp only [catalogProduct] at hentry
    split at hentry
    · cases hentry
    · obtain ⟨first, -, rfl⟩ := Option.map_eq_some_iff.mp hentry
      refine mem_foldl_union.mpr (.inr ⟨nutr, ?_, hcode⟩)
      refine List.mem_filterMap.mpr ⟨(product, price), List.mem_filterMap.mpr ⟨product, hrow, ?_⟩, hnutr⟩
      rw [hprice, Option.map_some]

/-- A candidate of the library carries what the rows say of its ingredients. -/
theorem seedCandidate_spec (h : seedCandidate t.library recipe = .ok c) : c.recipeId = toString recipe.id ∧
    c.ingredients = recipe.ingredients.map (seedIngredient t.library) ∧
    (∀ e ∈ recipe.requiredEquipment.getD [], e ∈ c.requiredEquipment) ∧
    ∀ ri ∈ recipe.ingredients, (ingredientMeta t.library ri.ingredientId).codes ⊆ c.allergensDeclared := by
  unfold Candidates.seedCandidate at h
  split at h
  · cases h
    exact ⟨rfl, rfl, fun e he => List.mem_eraseDups.mpr he, fun ri hri code hcode => mem_foldl_union.mpr (.inr ⟨ri, hri, hcode⟩)⟩
  · cases h

/-- Nothing in the recipe is what someone with the profile may not have: neither by the codes of its ingredients, nor in a product
    that is sold under their names; what is not assessed is kept from an allergic person; and the words of the recipe break no
    restriction. -/
structure SafeFor (py : Runtime) (settings : Catalog.Settings) (shop : Shop) (retailerId : Option Nat) (recipe : Recipe)
    (c : CandidateRecipeDTO) (profile : DietaryProfile) : Prop where
  codes : ∀ row ∈ profile.allergies.rows, ∀ ri ∈ recipe.ingredients, ∀ ing ∈ row? (·.id) shop.ingredients ri.ingredientId,
    ∀ code ∈ canonAllergens py [row.2.allergenCode], code ∉ canonAllergens py (ing.allergenCodes.getD [])
  products : ∀ row ∈ profile.allergies.rows, ∀ ri ∈ recipe.ingredients, ∀ product,
    SoldAs settings shop retailerId ri.canonicalName product → ∀ nutr ∈ product.nutrition,
      ∀ code ∈ canonAllergens py [row.2.allergenCode], code ∉ canonAllergens py (nutr.allergens.getD [])
  assessed : ∀ row ∈ profile.allergies.rows, row.2.severity ≠ .intolerance → py.fold row.2.allergenCode ≠ "" →
    ∀ ri ∈ recipe.ingredients, ∃ ing ∈ row? (·.id) shop.ingredients ri.ingredientId, ing.allergenCodes.isSome = true
  restrictions : ∀ text ∈ hardRestrictions profile, Text.strip text ≠ "" →
    ∀ token ∈ recipeTokens py (buildCatalog settings shop retailerId) c, ¬Forbids (py.fold text) token

/-- The meal is a recipe of the library that is public, that the household has the equipment for, and that is safe for each of those who
    eat. -/
def PlannedSafely (py : Runtime) (settings : Catalog.Settings) (t : Tables) (plan : MealPlan) (meal : PlannedMealDTO) : Prop :=
  ∃ recipe ∈ t.library.recipes, ∃ c, recipe.isPublic = true ∧ recipe.deletedAt = none ∧
    seedCandidate t.library recipe = .ok c ∧ meal.recipeId = toString recipe.id ∧
    (∀ e ∈ recipe.requiredEquipment.getD [], ∃ row ∈ t.equipment,
      row.householdId = plan.householdId ∧ row.available = true ∧ row.equipmentCode = e) ∧
    ∀ member ∈ t.members, member.householdId = plan.householdId → member.isEater = true →
      ∀ profile ∈ member.dietaryProfiles.head?, SafeFor py settings t.library.shop plan.retailerId recipe c profile

theorem canonAllergens_mono {py : Runtime} {values values' : List String} (h : values ⊆ values') {code : String}
    (hcode : code ∈ canonAllergens py values) : code ∈ canonAllergens py values' := by
  obtain ⟨v, hv, hne, heq⟩ := mem_canonAllergens.mp hcode
  exact mem_canonAllergens.mpr ⟨v, h hv, hne, heq⟩

end Rows

section Meals
variable {py : Runtime} {settings : Catalog.Settings} {t : Tables} {plan : MealPlan} {seed : Int} {asOf : Date} {inp : PlanInput}
  {slot : MealSlot} {recipe : Recipe} {c : CandidateRecipeDTO} {member : HouseholdMember} {profile : DietaryProfile}

/-- What the engine checks of the candidate of a recipe is what the rows ask for. -/
theorem safeFor_of_hardValid (hmembers : inp.members = buildMembers t plan.householdId)
    (hcatalog : inp.catalog = buildCatalog settings t.library.shop plan.retailerId) (hc : seedCandidate t.library recipe = .ok c)
    (hvalid : HardValid py inp slot c) (hmember : member ∈ t.members) (hhousehold : member.householdId = plan.householdId)
    (heater : member.isEater = true) (hprofile : profile ∈ member.dietaryProfiles.head?) :
    SafeFor py settings t.library.shop plan.retailerId recipe c profile := by
  obtain ⟨-, hingredients, -, hdeclared⟩ := seedCandidate_spec hc
  obtain ⟨name, hdto⟩ := exists_memberDTO hmember hhousehold heater
  rw [← hmembers] at hdto
  have hfirst : member.dietaryProfiles.head?.toList = [profile] := by rw [Option.mem_def.mp hprofile, Option.toList_some]
  have hallergens {row : Nat × Households.AllergyIn} (hrow : row ∈ profile.allergies.rows) :
      [row.2.allergenCode] ⊆ (memberDTO (rejectedRecipeIds t plan.householdId) name member).allergens := by
    simp only [memberDTO, hfirst, List.flatMap_singleton, List.cons_subset, List.nil_subset, and_true, List.mem_eraseDups]
    exact List.mem_map_of_mem hrow
  have hof {ri : Candidates.RecipeIngredient} (hri : ri ∈ recipe.ingredients) : seedIngredient t.library ri ∈ c.ingredients :=
    hingredients ▸ List.mem_map_of_mem hri
  constructor
  · intro row hrow ri hri ing hing code hcode hmem
    refine hvalid.declared _ hdto code (canonAllergens_mono (hallergens hrow) hcode) (canonAllergens_mono (hdeclared ri hri) ?_)
    rwa [ingredientMeta, Option.mem_def.mp hing]
  · intro row hrow ri hri product hsold nutr hnutr code hcode hmem
    obtain ⟨entry, hentry, hname, hcodes⟩ := hsold.exists_entry
    exact hvalid.derived _ hdto code (canonAllergens_mono (hallergens hrow) hcode) _ (hof hri) entry (hcatalog ▸ hentry) hname
      (canonAllergens_mono (hcodes nutr hnutr) hmem)
  · intro row hrow hsevere hne ri hri
    have hstrict : row.2.allergenCode ∈ (memberDTO (rejectedRecipeIds t plan.householdId) name member).strictAllergenCodes := by
      simp only [memberDTO, hfirst, List.flatMap_singleton, List.mem_eraseDups]
      exact List.mem_map_of_mem (List.mem_filter.mpr ⟨hrow, decide_eq_true hsevere⟩)
    have hassessed := hvalid.assessed _ hdto _ hstrict hne _ (hof hri)
    simp only [seedIngredient, ingredientMeta] at hassessed
    cases hing : row? (·.id) t.library.shop.ingredients ri.ingredientId with
    | none => simp [hing] at hassessed
    | some ing => exact ⟨ing, rfl, by simpa [hing, Candidates.metaOf] using hassessed⟩
  · intro text htext hne
    rw [← hcatalog]
    refine hvalid.permitted _ hdto _ (mem_lowerSet.mpr ⟨text, ?_, hne, rfl⟩)
    simpa only [memberDTO, hfirst, List.flatMap_singleton] using htext

/-- Whatever the tables hold, every meal that is planned from the library is planned safely. -/
theorem plannedMeals_safe {r : PlanResult}
    (hin : buildPlanInput py settings (seedGetCandidates t.library) t plan seed asOf = .ok inp) (hr : generatePlan py inp = .completed r) :
    ∀ meal ∈ r.plannedMeals, PlannedSafely py settings t plan meal := by
  obtain ⟨bundle, hbundle, hin⟩ := Runs.bind_eq_ok.mp hin
  obtain ⟨seeds, hseeds, hbundle⟩ := Runs.bind_eq_ok.mp hbundle
  cases hbundle
  cases hin
  intro meal hmeal
  rcases generatePlan_completed_iff.mp hr with ⟨-, rfl⟩ | ⟨-, recipes, hassigns, -, rfl⟩
  · cases hmeal
  obtain ⟨slot, -, cand, hfeasible, hserves⟩ := (Runs.exists_of_forall₂ (forall₂_plannedMeals hassigns _ _ _ 0)).2 meal hmeal
  obtain ⟨hcand, hvalid⟩ := mem_feasible_iff.mp hfeasible
  obtain ⟨recipe, hrecipe, hc⟩ := (Runs.exists_of_forall₂ (Runs.mapM_eq_ok_iff.mp hseeds)).2 cand hcand
  obtain ⟨hpublic, -⟩ := List.mem_filter.mp (List.mem_filter.mp hrecipe).1
  obtain ⟨hmem, hkept, hpublic⟩ := Candidates.mem_publicRecipes.mp hpublic
  obtain ⟨hid, -, hequipment, -⟩ := seedCandidate_spec hc
  refine ⟨recipe, hmem, cand, hpublic, hkept, hc, hserves.recipeId.trans hid, fun e he => ?_, ?_⟩
  · have havailable := hvalid.equipment e (hequipment e he)
    simpa [buildEquipment, and_assoc] using havailable
  · intro member hmember hhousehold heater profile hprofile
    exact safeFor_of_hardValid rfl rfl hc hvalid hmember hhousehold heater hprofile

end Meals

/-- Ana, who may have neither peanuts nor honey, and a library with rice. -/
def riceTables : Tables where
  library :=
    { shop :=
        { stores := [{ id := 1, retailerId := 1, postalCode := "28001" }]
          ingredients := [{ id := 1, canonicalName := "arroz", displayName := "Arroz", allergenCodes := some ["gluten"] }]
          products := [{ id := 1, nutrition := some { allergens := some ["soja"] } }]
          mappings := [{ ingredientId := 1, productId := 1 }]
          prices :=
            [{ id := 1, retailerId := 1, storeId := 1, productId := 1, amount := 1, packageQuantity := 500, packageUnit := "g"
               sourceType := "manual", sourceName := "tienda", observedAt := 0 }] }
      recipes :=
        [{ id := 1, origin := .seed, isPublic := true, title := "Arroz", servings := 1, mealTypes := some ["lunch"]
           ingredients := [{ ingredientId := 1, canonicalName := "arroz", quantity := 80, unit := "g" }] }] }
  members :=
    [{ id := 1, householdId := 1, publicId := "00000000", displayName := some "Ana", joinedAt := 0
       dietaryProfiles :=
         [{ dietType := some "vegana"
            allergies := { rows := [(0, { allergenCode := "cacahuetes", severity := .anaphylaxis })], nextId := 1 }
            foodPreferences := { rows := [(0, { subjectRef := "miel", sentiment := .avoid })], nextId := 1 } }] }]

def riceLunch : MealPlan where
  householdId := 1
  retailerId := some 1
  startDate := 739000
  endDate := 739000
  budgetAmount := some 5
  requirements := [{ mealType := .lunch, requestedCount := 1 }]

theorem plannedMeals_safe_rice : ∃ inp r, generatePlan (Runtime.replay []) inp = .completed r ∧ r.plannedMeals ≠ [] ∧
    ∀ meal ∈ r.plannedMeals, PlannedSafely (Runtime.replay []) {} riceTables riceLunch meal := by
  cases hin : buildPlanInput (Runtime.replay []) {} (seedGetCandidates riceTables.library) riceTables riceLunch 0 739000 with
  | error e =>
    have hok : (buildPlanInput (Runtime.replay []) {} (seedGetCandidates riceTables.library) riceTables riceLunch 0 739000).isOk = true := by
      decide +kernel
    rw [hin] at hok
    cases hok
  | ok inp =>
    have hplan : ((buildPlanInput (Runtime.replay []) {} (seedGetCandidates riceTables.library) riceTables riceLunch 0 739000).toOption.bind
        fun inp => (generatePlan (Runtime.replay []) inp).result?).any (!·.plannedMeals.isEmpty) = true := by decide +kernel
    rw [hin] at hplan
    obtain ⟨r, hr, hmeals⟩ := exists_completed _ hplan
    exact ⟨inp, r, hr, by simpa using hmeals, plannedMeals_safe hin hr⟩

end CestaPlan.Plans.Context
