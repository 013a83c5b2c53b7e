import CestaPlan.Engine.LimitSearch
import CestaPlan.Engine.Planning

/-! The order in which the candidates are explored.

    The local search takes the first option that improves the plan, so the order decides which one as soon as
    there are two. Where there never are, the plan is the same whatever the seed and the order of the recipes. -/

namespace CestaPlan.Engine
open LocalSearch

/-! ### Products -/

section Products
variable {py : Runtime} {m : ProductMatcher} {meals : List MealAssignment} {recipe : CandidateRecipeDTO}

/-- The two find the same products for the ingredients of the recipe. -/
def SameProducts (m m' : ProductMatcher) (recipe : CandidateRecipeDTO) : Prop :=
  ∀ ing ∈ recipe.ingredients, m'.matchIngredient ing = m.matchIngredient ing

def Provisioner.rematched (p : Provisioner) (m : ProductMatcher) : Provisioner := { p with matcher := m }

def NutritionCalculator.rematched (n : NutritionCalculator) (m : ProductMatcher) : NutritionCalculator :=
  { n with matcher := m }

theorem sameProducts_of_own {catalog : List CatalogProductDTO} {groups groups' : Dict String (List String)}
    {recipe : CandidateRecipeDTO}
    (h : ∀ ing ∈ recipe.ingredients, ((productMatcher catalog groups).byName.get? ing.canonicalName).isSome = true) :
    SameProducts (productMatcher catalog groups) (productMatcher catalog groups') recipe := by
  intro ing hing
  obtain ⟨product, hproduct⟩ := Option.isSome_iff_exists.mp (h ing hing)
  have hproduct' : (productMatcher catalog groups').byName.get? ing.canonicalName = some product := hproduct
  simp only [ProductMatcher.matchIngredient, ProductMatcher.resolve, hproduct, hproduct']

theorem contributions_rematched {p : Provisioner} (h : ∀ meal ∈ meals, SameProducts p.matcher m meal.recipe) :
    Provisioner.contributions py (p.rematched m) meals = Provisioner.contributions py p meals := by
  unfold Provisioner.contributions
  refine List.flatMap_congr fun meal hmeal => List.map_congr_left fun ing hing => ?_
  have hmatch : (p.rematched m).matcher.matchIngredient ing = p.matcher.matchIngredient ing := h meal hmeal ing hing
  unfold Provisioner.contribution
  rw [hmatch]
  rfl

theorem provision_rematched {p : Provisioner} (h : ∀ meal ∈ meals, SameProducts p.matcher m meal.recipe) :
    (p.rematched m).provision py meals = p.provision py meals := by
  have hdemand : Provisioner.demandOf py (p.rematched m) meals = Provisioner.demandOf py p meals := by
    rw [Provisioner.demandOf, Provisioner.demandOf, contributions_rematched h]
  unfold Provisioner.provision
  rw [hdemand]
  rfl

theorem usable_rematched {n : NutritionCalculator} {scale : ℚ} {ing : RecipeIngredientDTO}
    (h : m.matchIngredient ing = n.matcher.matchIngredient ing) :
    (n.rematched m).usable py scale ing = n.usable py scale ing := by
  unfold NutritionCalculator.usable NutritionCalculator.rematched
  rw [h]

theorem accumulate_rematched {n : NutritionCalculator} {scale : ℚ} {nutrient : Macro} (h : SameProducts n.matcher m recipe) :
    (n.rematched m).accumulate py recipe scale nutrient = n.accumulate py recipe scale nutrient := by
  unfold NutritionCalculator.accumulate
  refine List.foldl_ext _ _ _ fun total ing hing => ?_
  rw [usable_rematched (h ing hing)]

theorem contributed_rematched {n : NutritionCalculator} {scale : ℚ} (h : SameProducts n.matcher m recipe) :
    (n.rematched m).contributed py recipe scale = n.contributed py recipe scale := by
  unfold NutritionCalculator.contributed
  rw [Bool.eq_iff_iff, List.any_eq_true, List.any_eq_true]
  refine exists_congr fun ing => and_congr_right fun hing => ?_
  rw [usable_rematched (h ing hing)]

theorem forMealsPerServing_rematched {n : NutritionCalculator} (h : ∀ meal ∈ meals, SameProducts n.matcher m meal.recipe) :
    ((n.rematched m).forMealsPerServing py meals).1 = (n.forMealsPerServing py meals).1 := by
  funext nutrient
  refine List.foldl_ext _ _ _ fun total meal hmeal => ?_
  rw [contributed_rematched (h meal hmeal), accumulate_rematched (h meal hmeal)]

end Products

/-! ### Scores -/

namespace PlanOptimizer

def rematched (o : PlanOptimizer) (m : ProductMatcher) (softPenalty : Dict String Nat) : PlanOptimizer :=
  { o with
    provisioner := o.provisioner.rematched m
    nutritionCalc := o.nutritionCalc.rematched m
    softPenalty := softPenalty }

/-- The other matcher and the other penalties are the same for the recipes in `S`. -/
structure SameFor (o : PlanOptimizer) (m : ProductMatcher) (softPenalty : Dict String Nat)
    (S : CandidateRecipeDTO → Prop) : Prop where
  bought : ∀ recipe, S recipe → SameProducts o.provisioner.matcher m recipe
  eaten : ∀ recipe, S recipe → SameProducts o.nutritionCalc.matcher m recipe
  soft : ∀ recipeId, softPenalty.getD recipeId 0 = o.softPenalty.getD recipeId 0

section Scores
variable {py : Runtime} {o : PlanOptimizer} {m : ProductMatcher} {softPenalty : Dict String Nat}
  {S : CandidateRecipeDTO → Prop} {slots : List MealSlot} {recipes chosen : List CandidateRecipeDTO}
  {recipe : CandidateRecipeDTO}

theorem mem_recipes_of_mem_buildMeals {participants : List String} {meal : MealAssignment}
    (h : meal ∈ buildMeals participants slots recipes) : meal.recipe ∈ recipes := by
  obtain ⟨⟨slot, recipe⟩, hmem, rfl⟩ := List.mem_map.mp h
  exact (List.of_mem_zip hmem).2

namespace SameFor
variable (h : SameFor o m softPenalty S)
include h

theorem provision_eq (hS : ∀ r ∈ recipes, S r) :
    (o.rematched m softPenalty).provision py slots recipes = o.provision py slots recipes :=
  provision_rematched fun _ hmeal => h.bought _ (hS _ (mem_recipes_of_mem_buildMeals hmeal))

theorem nutritionPenalty_eq (hS : ∀ r ∈ recipes, S r) :
    (o.rematched m softPenalty).nutritionPenalty py slots recipes = o.nutritionPenalty py slots recipes := by
  have htotals : ((o.nutritionCalc.rematched m).forMealsPerServing py (buildMeals [] slots recipes)).1 =
      (o.nutritionCalc.forMealsPerServing py (buildMeals [] slots recipes)).1 :=
    forMealsPerServing_rematched fun _ hmeal => h.eaten _ (hS _ (mem_recipes_of_mem_buildMeals hmeal))
  unfold nutritionPenalty rematched
  simp only [htotals]
  rfl

theorem score_eq (hS : ∀ r ∈ recipes, S r) (prov : Provision) :
    (o.rematched m softPenalty).score py recipes prov slots = o.score py recipes prov slots := by
  have hsoft : (recipes.map fun r => (o.rematched m softPenalty).softPenalty.getD r.recipeId 0) =
      recipes.map fun r => o.softPenalty.getD r.recipeId 0 := List.map_congr_left fun r _ => h.soft r.recipeId
  unfold score
  rw [h.nutritionPenalty_eq hS, hsoft]
  rfl

theorem costOf_eq (hS : ∀ r ∈ recipes, S r) :
    (o.rematched m softPenalty).costOf py slots recipes = o.costOf py slots recipes :=
  congrArg (Provision.costTotal py) (h.provision_eq hS)

theorem scoreOf_eq (hS : ∀ r ∈ recipes, S r) :
    (o.rematched m softPenalty).scoreOf py slots recipes = o.scoreOf py slots recipes := by
  unfold scoreOf
  rw [h.provision_eq hS, h.score_eq hS]

theorem greedyKey_eq {costOnly : Bool} (hS : ∀ r ∈ chosen, S r) (hrecipe : S recipe) :
    (o.rematched m softPenalty).greedyKey py costOnly slots chosen recipe = o.greedyKey py costOnly slots chosen recipe := by
  have htrial : ∀ r ∈ chosen ++ [recipe], S r := by
    intro r hr
    rcases List.mem_append.mp hr with hr | hr
    · exact hS r hr
    · exact List.mem_singleton.mp hr ▸ hrecipe
  unfold greedyKey
  simp only [h.provision_eq htrial, h.score_eq htrial]

theorem accepts_eq {i : ℕ} (hS : ∀ r ∈ chosen, S r) (hrecipe : S recipe) :
    (o.rematched m softPenalty).accepts py slots chosen i recipe = o.accepts py slots chosen i recipe := by
  have htrial : ∀ r ∈ chosen.set i recipe, S r := by
    intro r hr
    rcases List.mem_or_eq_of_mem_set hr with hr | rfl
    · exact hS r hr
    · exact hrecipe
  unfold accepts
  rw [h.scoreOf_eq htrial, h.scoreOf_eq hS]

end SameFor

theorem selects_iff {openings : List Opening} {rng rng' : py.RandomState} {first : List CandidateRecipeDTO}
    (hfirst : o.SearchReaches py false openings rng (first, rng')) : o.Selects py openings rng recipes ↔
      (recipes = first ∧ o.costOf py (openings.map (·.slot)) first ≤ o.budgetLimit py) ∨
        (o.budgetLimit py < o.costOf py (openings.map (·.slot)) first ∧
          o.costOf py (openings.map (·.slot)) recipes ≤ o.budgetLimit py ∧
          ∃ rng'', o.SearchReaches py true openings rng' (recipes, rng'')) := by
  refine ⟨?_, fun hcases => ⟨first, rng', hfirst, hcases⟩⟩
  rintro ⟨first', r, hfirst', hcases⟩
  obtain ⟨rfl, rfl⟩ := Prod.mk.inj (hfirst.unique hfirst')
  exact hcases

/-! ### One visit -/

section Visit
variable {w : Walk py} {i : ℕ} {current : CandidateRecipeDTO} {options : List CandidateRecipeDTO}

theorem getElem?_elim_set (hcur : w.chosen[i]? = some current) (found : Option CandidateRecipeDTO) :
    (found.elim w.chosen (w.chosen.set i))[i]? = some (found.getD current) := by
  obtain ⟨hlt, -⟩ := List.getElem?_eq_some_iff.mp hcur
  cases found with
  | none => exact hcur
  | some recipe => simp [hlt]

/-- The order of the options decides the next plan exactly if two of them are accepted. -/
theorem trySwap_order_iff (hw : Carries o slots w) (hcur : w.chosen[i]? = some current) :
    (∀ order : List CandidateRecipeDTO, order.Perm options →
      (o.trySwap py slots i current order w).1.chosen = (o.trySwap py slots i current options w).1.chosen) ↔
    ∀ a ∈ options, ∀ b ∈ options, o.accepts py slots w.chosen i a = true → o.accepts py slots w.chosen i b = true → a = b := by
  rw [← find?_perm_iff]
  refine forall_congr' fun order => forall_congr' fun _ => ?_
  rw [(trySwap_carries order hw hcur).2, (trySwap_carries options hw hcur).2]
  refine ⟨fun hsame => ?_, fun hsame => by rw [hsame]⟩
  have hat := congrArg (·[i]?) hsame
  simp only [getElem?_elim_set hcur, Option.some.injEq] at hat
  -- An accepted recipe is not the current one.
  have hne : ∀ {l : List CandidateRecipeDTO}, l.find? (o.accepts py slots w.chosen i) ≠ some current := by
    intro l hfound
    simpa [accepts, hcur] using List.find?_some hfound
  cases hfirst : order.find? (o.accepts py slots w.chosen i) with
  | none =>
    cases hother : options.find? (o.accepts py slots w.chosen i) with
    | none => rfl
    | some b =>
      rw [hfirst, hother] at hat
      exact absurd (hother.trans (congrArg some hat.symm)) hne
  | some a =>
    cases hother : options.find? (o.accepts py slots w.chosen i) with
    | none =>
      rw [hfirst, hother] at hat
      exact absurd (hfirst.trans (congrArg some hat)) hne
    | some b =>
      rw [hfirst, hother] at hat
      exact congrArg some hat

end Visit
end Scores
end PlanOptimizer

/-! ### Two runs -/

/-- What a plan costs and the recipe of each slot, if there is a plan. -/
def PlanOutcome.choice (outcome : PlanOutcome) : Option (CostTotal × List String) :=
  outcome.result?.map fun r => (r.costTotal, r.plannedMeals.map (·.recipeId))

namespace PlanInput
open PlanOptimizer

section Definitions
variable (py : Runtime) (inp : PlanInput)

/-- The same request with another seed and its recipes in another order. -/
def explored (seed : Int) (candidates : List CandidateRecipeDTO) : PlanInput :=
  { inp with seed := seed, candidates := candidates }

/-- The outcome does not depend on the seed and on the order of the recipes. -/
def Stable : Prop :=
  ∀ seed seed' candidates candidates', candidates.Perm inp.candidates → candidates'.Perm inp.candidates →
    (generatePlan py (inp.explored seed candidates)).choice = (generatePlan py (inp.explored seed' candidates')).choice

def softViolations (recipe : CandidateRecipeDTO) : Nat :=
  (validateDiet py inp.catalog recipe inp.members).softViolations.length

/-- The search seeded by cost, or by the full score, ends in the recipes without ever a choice between two. -/
def Forces (costOnly : Bool) (recipes : List CandidateRecipeDTO) : Prop :=
  Forced (fun slot recipe => recipe ∈ inp.feasible py slot) ((inp.optimizer py).greedyKey py costOnly)
    ((inp.optimizer py).accepts py inp.slots) inp.slots maxPasses recipes

/-- No order decides: not that of the recipes which product an ingredient finds, nor how many soft violations count for
    an id; and not that of the options which one is placed or accepted. -/
structure Unambiguous : Prop where
  products : ∀ candidates, candidates.Perm inp.candidates → ∀ recipe ∈ inp.candidates,
    SameProducts inp.matcher (productMatcher inp.catalog (substitutionGroups candidates)) recipe
  penalties : ∀ a ∈ inp.validRecipes py, ∀ b ∈ inp.validRecipes py, a.recipeId = b.recipeId →
    inp.softViolations py a = inp.softViolations py b
  search : (∀ slot ∈ inp.slots, inp.feasible py slot ≠ []) → ∃ first, inp.Forces py false first ∧
    ((inp.optimizer py).budgetLimit py < inp.planCost py first → ∃ second, inp.Forces py true second)

end Definitions
section Runs
variable {py : Runtime} {inp : PlanInput} {seed : Int} {candidates recipes : List CandidateRecipeDTO}
  {recipe : CandidateRecipeDTO} {slot : MealSlot}

theorem optimizer_explored : (inp.explored seed candidates).optimizer py = (inp.optimizer py).rematched
    (productMatcher inp.catalog (substitutionGroups candidates)) ((inp.explored seed candidates).softPenalty py) := rfl

theorem validRecipes_explored (hperm : candidates.Perm inp.candidates) :
    ((inp.explored seed candidates).validRecipes py).Perm (inp.validRecipes py) := hperm.filter _

theorem mem_feasible_explored (hperm : candidates.Perm inp.candidates) :
    recipe ∈ (inp.explored seed candidates).feasible py slot ↔ recipe ∈ inp.feasible py slot :=
  ((validRecipes_explored hperm).filter _).mem_iff

theorem softPenalty_explored (h : inp.Unambiguous py) (hperm : candidates.Perm inp.candidates) (recipeId : String) :
    ((inp.explored seed candidates).softPenalty py).getD recipeId 0 = (inp.softPenalty py).getD recipeId 0 :=
  congrArg (·.getD 0) (Dict.get?_foldl_set_perm (validRecipes_explored hperm).symm h.penalties).symm

theorem sameFor_explored (h : inp.Unambiguous py) (seed : Int) (hperm : candidates.Perm inp.candidates) :
    SameFor (inp.optimizer py) (productMatcher inp.catalog (substitutionGroups candidates))
      ((inp.explored seed candidates).softPenalty py) (· ∈ inp.candidates) where
  bought := h.products candidates hperm
  eaten := h.products candidates hperm
  soft := softPenalty_explored h hperm

theorem options_of_mem_openingsOf {slots : List MealSlot} {feasible : MealSlot → List CandidateRecipeDTO} {opening : Opening}
    (h : opening ∈ openingsOf slots feasible) : opening.options = feasible opening.slot := by
  obtain ⟨slot, -, hslot⟩ := List.mem_filterMap.mp h
  split at hslot
  · cases hslot
    rfl
  · cases hslot

theorem mem_candidates_of_mem_feasible (h : recipe ∈ inp.feasible py slot) : recipe ∈ inp.candidates :=
  List.mem_of_mem_filter (List.mem_of_mem_filter h)

theorem feasible_explored_ne_nil (seed : Int) (hperm : candidates.Perm inp.candidates)
    (hc : ∀ slot ∈ inp.slots, inp.feasible py slot ≠ []) :
    ∀ slot ∈ inp.slots, (inp.explored seed candidates).feasible py slot ≠ [] := by
  intro slot hslot
  obtain ⟨recipe, hmem⟩ := List.exists_mem_of_ne_nil _ (hc slot hslot)
  exact List.ne_nil_of_mem ((mem_feasible_explored hperm).mpr hmem)

/-- A forced search is the search of every run. -/
theorem Forces.searchReaches {costOnly : Bool} (hforces : inp.Forces py costOnly recipes) (h : inp.Unambiguous py)
    (seed : Int) (hperm : candidates.Perm inp.candidates) (hc : ∀ slot ∈ inp.slots, inp.feasible py slot ≠ [])
    (rng : py.RandomState) :
    (∀ recipe ∈ recipes, recipe ∈ inp.candidates) ∧
      ∃ rng', ((inp.explored seed candidates).optimizer py).SearchReaches py costOnly
        (openingsOf inp.slots ((inp.explored seed candidates).feasible py)) rng (recipes, rng') := by
  have hsame := sameFor_explored h seed hperm
  have hslots : (openingsOf inp.slots ((inp.explored seed candidates).feasible py)).map (·.slot) = inp.slots :=
    map_slot_openingsOf (feasible_explored_ne_nil seed hperm hc)
  have hoffered : ∀ {chosen}, Offered (fun slot recipe => recipe ∈ inp.feasible py slot) chosen →
      ∀ r ∈ chosen, r ∈ inp.candidates := by
    intro chosen hchosen r hr
    obtain ⟨slot, hmem⟩ := hchosen r hr
    exact mem_candidates_of_mem_feasible hmem
  have hforced : Forced (fun slot recipe => recipe ∈ inp.feasible py slot) ((inp.optimizer py).greedyKey py costOnly)
      ((inp.optimizer py).accepts py inp.slots)
      ((openingsOf inp.slots ((inp.explored seed candidates).feasible py)).map (·.slot)) maxPasses recipes := by
    rw [hslots]
    exact hforces
  unfold SearchReaches
  rw [optimizer_explored, hslots]
  refine (hforced.reaches ?_ ?_ ?_ rng).imp_left hoffered
  · rintro chosen i recipe hchosen ⟨slot, hmem⟩
    exact hsame.accepts_eq (hoffered hchosen) (mem_candidates_of_mem_feasible hmem)
  · rintro before chosen recipe hchosen ⟨slot, hmem⟩
    exact hsame.greedyKey_eq (hoffered hchosen) (mem_candidates_of_mem_feasible hmem)
  · intro opening hopening recipe
    have hoptions : recipe ∈ opening.options ↔ recipe ∈ (inp.explored seed candidates).feasible py opening.slot := by
      rw [options_of_mem_openingsOf hopening]
    exact hoptions.trans (mem_feasible_explored hperm)

theorem exists_settles (h : inp.Unambiguous py) (hc : ∀ slot ∈ inp.slots, inp.feasible py slot ≠ []) :
    ∃ chosen, (∀ recipe ∈ chosen, recipe ∈ inp.candidates) ∧
      ∀ seed candidates, candidates.Perm inp.candidates → ∀ recipes,
        (inp.explored seed candidates).Settles py recipes ↔
          recipes = chosen ∧ inp.planCost py chosen ≤ (inp.optimizer py).budgetLimit py := by
  obtain ⟨first, hfirst, hover⟩ := h.search hc
  have hmem := (hfirst.searchReaches h inp.seed (List.Perm.refl _) hc (py.random inp.seed)).1
  have hlimit : ∀ seed candidates, ((inp.explored seed candidates).optimizer py).budgetLimit py =
      (inp.optimizer py).budgetLimit py := fun _ _ => rfl
  have hcost : ∀ {seed candidates recipes}, candidates.Perm inp.candidates → (∀ recipe ∈ recipes, recipe ∈ inp.candidates) →
      ((inp.explored seed candidates).optimizer py).costOf py inp.slots recipes = inp.planCost py recipes :=
    fun hperm hrecipes => (sameFor_explored h _ hperm).costOf_eq hrecipes
  by_cases hlt : (inp.optimizer py).budgetLimit py < inp.planCost py first
  · obtain ⟨second, hsecond⟩ := hover hlt
    have hmem' := (hsecond.searchReaches h inp.seed (List.Perm.refl _) hc (py.random inp.seed)).1
    refine ⟨second, hmem', fun seed candidates hperm recipes => ?_⟩
    obtain ⟨-, rng, hreaches⟩ := hfirst.searchReaches h seed hperm hc (py.random seed)
    obtain ⟨-, rng', hreaches'⟩ := hsecond.searchReaches h seed hperm hc rng
    have hslots := map_slot_openingsOf (feasible_explored_ne_nil seed hperm hc)
    refine (selects_iff hreaches).trans ?_
    rw [hslots, hcost hperm hmem, hlimit]
    constructor
    · rintro (⟨-, hle⟩ | ⟨-, hle, rng'', hrecipes⟩)
      · exact absurd hlt (not_lt.mpr hle)
      · obtain ⟨rfl, -⟩ := Prod.mk.inj (hreaches'.unique hrecipes)
        exact ⟨rfl, (hcost hperm hmem').symm.trans_le hle⟩
    · rintro ⟨rfl, hle⟩
      exact .inr ⟨hlt, (hcost hperm hmem').trans_le hle, rng', hreaches'⟩
  · refine ⟨first, hmem, fun seed candidates hperm recipes => ?_⟩
    obtain ⟨-, rng, hreaches⟩ := hfirst.searchReaches h seed hperm hc (py.random seed)
    have hslots := map_slot_openingsOf (feasible_explored_ne_nil seed hperm hc)
    refine (selects_iff hreaches).trans ?_
    rw [hslots, hcost hperm hmem, hlimit]
    simp [hlt]

theorem choice_buildResult (prov : Provision) : (PlanOutcome.completed (inp.buildResult py recipes prov)).choice =
    some ({ known := prov.costKnown, estimated := prov.costEstimated, total := prov.costTotal py },
      (inp.slots.zip recipes).map (·.2.recipeId)) := by
  set meals := buildMeals (inp.members.map (·.memberAlias)) inp.slots recipes with hmeals
  have hplanned : (inp.buildResult py recipes prov).plannedMeals.map (·.recipeId) =
      (meals.zipIdx.map Prod.fst).map (·.recipe.recipeId) := by
    rw [List.map_map]
    exact List.map_map
  have hids : meals.map (·.recipe.recipeId) = (inp.slots.zip recipes).map (·.2.recipeId) := by
    rw [hmeals, buildMeals, List.map_map]
    rfl
  rw [List.zipIdx_map_fst, hids] at hplanned
  rw [← hplanned]
  rfl

theorem exists_choice (h : inp.Unambiguous py) : ∃ choice, ∀ seed candidates, candidates.Perm inp.candidates →
    (generatePlan py (inp.explored seed candidates)).choice = choice := by
  by_cases hs : inp.slots = []
  · refine ⟨(PlanOutcome.completed (inp.emptyPlan py)).choice, fun seed candidates _ => ?_⟩
    have hempty : generatePlan py (inp.explored seed candidates) = .completed ((inp.explored seed candidates).emptyPlan py) :=
      if_pos hs
    rw [hempty]
    rfl
  by_cases hc : ∀ slot ∈ inp.slots, inp.feasible py slot ≠ []
  · obtain ⟨chosen, hmem, hsettles⟩ := exists_settles h hc
    refine ⟨if inp.planCost py chosen ≤ (inp.optimizer py).budgetLimit py then
      (PlanOutcome.completed (inp.buildResult py chosen (inp.provisionOf py chosen))).choice else none,
      fun seed candidates hperm => ?_⟩
    have hprov : (inp.explored seed candidates).provisionOf py chosen = inp.provisionOf py chosen :=
      (sameFor_explored h _ hperm).provision_eq hmem
    have hc' : ∀ slot ∈ inp.slots, (inp.explored seed candidates).feasible py slot ≠ [] :=
      feasible_explored_ne_nil seed hperm hc
    rcases @generatePlan_of_candidates py (inp.explored seed candidates) hs hc' with
      ⟨recipes, -, hrecipes, heq⟩ | ⟨prov, cheapest, heq, hno, -⟩
    · obtain ⟨rfl, hle⟩ := (hsettles seed candidates hperm recipes).mp hrecipes
      rw [heq, if_pos hle, choice_buildResult, choice_buildResult, hprov]
      rfl
    · rw [heq, if_neg fun hle => hno chosen ((hsettles seed candidates hperm chosen).mpr ⟨rfl, hle⟩)]
      rfl
  · obtain ⟨slot, hslot, hnil⟩ := by simpa using hc
    refine ⟨none, fun seed candidates hperm => ?_⟩
    have hnil' : (inp.explored seed candidates).feasible py slot = [] :=
      List.eq_nil_iff_forall_not_mem.mpr fun recipe hmem =>
        List.not_mem_nil (hnil ▸ (mem_feasible_explored hperm).mp hmem)
    rw [@generatePlan_of_missing py (inp.explored seed candidates) slot hslot hnil']
    rfl

end Runs
end PlanInput

/-! ### A breakfast and a lunch for 8 -/

/-- The draws of Python's source for the seeds 0 and 3. -/
def twoSeeds : Runtime :=
  { Runtime.replay [] with
    random := fun seed => if seed = 3 then [0, 0, 1, 2, 1, 0, 2, 0, 1] else [1, 1, 0, 1, 1, 1, 1, 1, 1] }

def dish (recipeId canonicalName : String) (mealType : MealType) (minutes : Int) : CandidateRecipeDTO where
  recipeId := recipeId
  title := canonicalName
  mealTypes := [mealType]
  preparationMinutes := minutes
  ingredients := [{ canonicalName := canonicalName, displayName := canonicalName, quantity := 1, unit := "ud" }]

def pack (productId canonicalName : String) (amount : ℚ) : CatalogProductDTO where
  productId := productId
  canonicalName := canonicalName
  displayName := canonicalName
  packages := [{ productId := productId, packageQuantity := 1, packageUnit := "ud", amount := amount }]

def croissant : CandidateRecipeDTO := dish "r1" "croissant" .breakfast 0

def porridge : CandidateRecipeDTO := dish "r2" "avena" .breakfast 20

def pancakes : CandidateRecipeDTO := dish "r3" "harina" .breakfast 10

def lentils : CandidateRecipeDTO := dish "r4" "lentejas" .lunch 20

def greenSalad : CandidateRecipeDTO := dish "r5" "ensalada" .lunch 0

/-- The breakfast and the lunch that cook the fastest cost 13. -/
def within8 (candidates : List CandidateRecipeDTO) : PlanInput where
  members := [{ memberAlias := "Ana" }]
  mealRequirements := [{ mealType := .breakfast, requestedCount := 1 }, { mealType := .lunch, requestedCount := 1 }]
  budget := { amount := 8 }
  dateRange := (739817, 739817)
  catalog := [pack "p1" "croissant" 8, pack "p2" "avena" 2, pack "p3" "harina" 5, pack "p4" "lentejas" 1,
    pack "p5" "ensalada" 5]
  candidates := candidates

end CestaPlan.Engine
