import CestaPlan.Engine.Choices
import CestaPlan.Engine.Conversions
import CestaPlan.Engine.GroceryLines
import CestaPlan.Engine.Planning
import CestaPlan.Library.Buckets
import Mathlib.Algebra.BigOperators.Field
import Mathlib.Algebra.Order.Field.Rat
import Mathlib.Data.List.Sigma
import Mathlib.Tactic.Positivity
import Mathlib.Tactic.Ring

/-! The totals of a plan. With exact decimals the cost of the lines is shared out among the meals without loss. -/

namespace CestaPlan.Engine

/-! ### What is bought -/

section Purchases
variable {py : Runtime}

theorem choosePackage_mem {pending : ℚ} {options : List PackageOptionDTO} {asOf : Option Date} {wWaste wCost : ℚ}
    {choice : PackageChoice} (h : choosePackage py pending options asOf wWaste wCost = some choice) :
    choice.option ∈ options ∧
      computePackages py pending 0 choice.option.packageQuantity choice.option.amount = some choice.result := by
  obtain ⟨opt, hopt, hq, rfl⟩ := exists_choiceFor h
  exact ⟨hopt, computePackages_eq hq⟩

theorem choosePackage_priceKnown {pending : ℚ} {options : List PackageOptionDTO} {asOf : Option Date} {wWaste wCost : ℚ}
    {choice : PackageChoice} (h : choosePackage py pending options asOf wWaste wCost = some choice) :
    choice.priceKnown = (choice.option.hasPrice && !choice.expired) := by
  obtain ⟨opt, -, -, rfl⟩ := exists_choiceFor h
  rfl

theorem totalCost_nonneg (hexact : py.round = id) {needed pantry quantity price : ℚ} (hprice : 0 ≤ price) {r : PackageResult}
    (h : computePackages py needed pantry quantity price = some r) : 0 ≤ r.totalCost := by
  obtain ⟨packages, -, hr⟩ := Option.bind_eq_some_iff.mp h
  obtain rfl := Option.some.inj hr
  simp only [py.mul_exact hexact]
  positivity

theorem totalCost_of_nonpos (hexact : py.round = id) {needed quantity price : ℚ} (hneeded : needed ≤ 0)
    {r : PackageResult} (h : computePackages py needed 0 quantity price = some r) : r.totalCost = 0 := by
  obtain ⟨packages, hpackages, hr⟩ := Option.bind_eq_some_iff.mp h
  obtain rfl := Option.some.inj hr
  have hpending : max (py.sub needed 0) 0 ≤ 0 := by simp [py.sub_exact hexact, hneeded]
  simp only [decimalCeilDiv, if_pos hpending] at hpackages
  split at hpackages
  · cases hpackages
  · obtain rfl := Option.some.inj hpackages
    simp [py.mul_exact hexact]

theorem available_nonneg (hexact : py.round = id) {p : PantryCalculator} (hf : p.factors.NonNegative)
    (hitems : ∀ item ∈ p.items, 0 ≤ item.quantity) (name unit : String) : 0 ≤ p.available py name unit := by
  unfold PantryCalculator.available
  refine List.foldlRecOn (motive := fun total => 0 ≤ total) _ _ le_rfl fun total ht item hitem => ?_
  split
  · next q hq =>
    have hq0 := convert_nonneg hexact hf (hitems item (List.mem_filter.mp hitem).1) hq
    rw [py.add_exact hexact]
    positivity
  · exact ht

theorem pending_of_zero (hexact : py.round = id) {p : PantryCalculator} {name unit : String}
    (h : 0 ≤ p.available py name unit) : (p.pending py name 0 unit).2 = 0 := by
  simp [PantryCalculator.pending, py.sub_exact hexact, min_eq_left h]

end Purchases

namespace Provisioner

/-! ### The demand of the slots -/

section Demands
variable {py : Runtime} {p : Provisioner} {slots : Finset ℕ}

/-- What is demanded of a line is what the slots demand of it, and it is not negative. -/
structure Demand.Splits (d : Demand) (slots : Finset ℕ) : Prop where
  shares : ∀ key, ∑ i ∈ slots, d.demandByMeal.getD (key, i) 0 = d.demand.getD key 0
  nonneg : ∀ key, 0 ≤ d.demand.getD key 0

theorem Demand.Splits.add (hexact : py.round = id) {d : Demand} (h : d.Splits slots) {i : ℕ} (hi : i ∈ slots)
    {c : Contribution} (hc : 0 ≤ c.quantity) : (d.add py i c).Splits slots := by
  have hdemand : (d.add py i c).demand = d.demand.bump c.key c.quantity := by
    simp [Demand.add, Dict.bump, py.add_exact hexact]
  have hshares : (d.add py i c).demandByMeal = d.demandByMeal.bump (c.key, i) c.quantity := by
    simp [Demand.add, Dict.bump, py.add_exact hexact]
  constructor
  · intro key
    rw [hdemand, hshares, Dict.getD_bump, ← h.shares]
    simp only [Dict.getD_bump, Finset.sum_add_distrib, Prod.mk.injEq, ite_and, add_right_inj]
    split
    · rw [Finset.sum_ite_eq', if_pos hi]
    · exact Finset.sum_const_zero
  · intro key
    rw [hdemand, Dict.getD_bump]
    have := h.nonneg key
    split
    · positivity
    · simpa using this

theorem contribution_nonneg (hexact : py.round = id) (hf : p.factors.NonNegative) {meal : MealAssignment}
    {ing : RecipeIngredientDTO} (hing : 0 ≤ ing.quantity) : 0 ≤ (contribution py p meal ing).quantity := by
  have hraw : 0 ≤ py.mul ing.quantity (py.div meal.servings meal.recipe.servings) := by
    rw [py.mul_exact hexact, py.div_exact hexact]
    positivity
  simp only [contribution]
  split
  · next qty hqty => exact convert_nonneg hexact hf hraw hqty
  · exact hraw

theorem demandOf_splits (hexact : py.round = id) (hf : p.factors.NonNegative) {meals : List MealAssignment}
    (hq : ∀ meal ∈ meals, ∀ ing ∈ meal.recipe.ingredients, 0 ≤ ing.quantity) :
    (demandOf py p meals).Splits (meals.map (·.slotIndex)).toFinset := by
  have hcs : ∀ c ∈ contributions py p meals, c.1 ∈ (meals.map (·.slotIndex)).toFinset ∧ 0 ≤ c.2.quantity := by
    intro c hc
    obtain ⟨meal, hmeal, hc⟩ := List.mem_flatMap.mp hc
    obtain ⟨ing, hing, rfl⟩ := List.mem_map.mp hc
    exact ⟨List.mem_toFinset.mpr (List.mem_map_of_mem hmeal), contribution_nonneg hexact hf (hq meal hmeal ing hing)⟩
  unfold demandOf
  generalize contributions py p meals = cs at hcs
  induction cs using List.reverseRecOn with
  | nil => exact ⟨by simp [Dict.getD], by simp [Dict.getD]⟩
  | append_singleton cs c ih =>
    rw [List.foldl_append, List.foldl_cons, List.foldl_nil]
    obtain ⟨hi, hc⟩ := hcs c (by simp)
    exact (ih fun c' hc' => hcs c' (List.mem_append_left _ hc')).add hexact hi hc

end Demands

/-! ### The lines of the slots -/

section Lines
variable {py : Runtime} {p : Provisioner} {meals : List MealAssignment} {d : Demand}

theorem sum_impute (hexact : py.round = id) (hslots : (meals.map (·.slotIndex)).Nodup)
    (hd : d.Splits (meals.map (·.slotIndex)).toFinset) (key : LineKey) {subtotal : ℚ} (hsub : 0 ≤ subtotal)
    (hzero : d.demand.getD key 0 = 0 → subtotal = 0) (imputable : Dict ℕ ℚ) :
    ∑ i ∈ (meals.map (·.slotIndex)).toFinset, (impute py meals d key (d.demand.getD key 0) subtotal imputable).getD i 0 =
      ∑ i ∈ (meals.map (·.slotIndex)).toFinset, imputable.getD i 0 + subtotal := by
  unfold impute
  split
  · next h =>
    have hne : d.demand.getD key 0 ≠ 0 := h.1.ne'
    have hall : (meals.map fun meal => subtotal * d.demandByMeal.getD (key, meal.slotIndex) 0 / d.demand.getD key 0).sum =
        subtotal := by
      calc (meals.map fun meal => subtotal * d.demandByMeal.getD (key, meal.slotIndex) 0 / d.demand.getD key 0).sum
          = ∑ i ∈ (meals.map (·.slotIndex)).toFinset,
              subtotal * d.demandByMeal.getD (key, i) 0 / d.demand.getD key 0 := by
            rw [List.sum_toFinset _ hslots, List.map_map]
            rfl
        _ = subtotal * d.demand.getD key 0 / d.demand.getD key 0 := by
            rw [← Finset.sum_div, ← Finset.mul_sum, hd.shares]
        _ = subtotal := mul_div_cancel_right₀ _ hne
    rw [foldl_measure (fun imputable => ∑ i ∈ (meals.map (·.slotIndex)).toFinset, Dict.getD imputable i 0) _
      fun meal => subtotal * d.demandByMeal.getD (key, meal.slotIndex) 0 / d.demand.getD key 0, hall]
    intro imputable meal hmeal
    have hi : meal.slotIndex ∈ (meals.map (·.slotIndex)).toFinset := List.mem_toFinset.mpr (List.mem_map_of_mem hmeal)
    split
    · next share hshare =>
      have hget : d.demandByMeal.getD (key, meal.slotIndex) 0 = share := by rw [Dict.getD, hshare, Option.getD_some]
      rw [hget]
      split
      · rw [py.add_exact hexact, py.div_exact hexact, py.mul_exact hexact]
        exact Dict.sum_bump hi
      · next hzero => simp [not_not.mp hzero]
    · next hnone => simp [Dict.getD, hnone]
  · next h =>
    have hzero' : subtotal = 0 := by
      rcases (hd.nonneg key).eq_or_lt with hneeded | hneeded
      · exact hzero hneeded.symm
      · exact le_antisymm (not_lt.mp fun hlt => h ⟨hneeded, hlt⟩) hsub
    rw [hzero', add_zero]

/-- The subtotals of the lines come to the cost, and so does what is imputed to the slots. -/
structure Balanced (prov : Provision) (slots : Finset ℕ) : Prop where
  lines : (prov.groceryLines.map (·.subtotal)).sum = prov.costKnown + prov.costEstimated
  imputed : ∑ i ∈ slots, prov.imputableByMeal.getD i 0 = prov.costKnown + prov.costEstimated

/-- No price, stock or factor that the provisioner works with is negative. -/
structure NonNegative (p : Provisioner) : Prop where
  factors : p.factors.NonNegative
  pantryFactors : p.pantry.factors.NonNegative
  stock : ∀ item ∈ p.pantry.items, 0 ≤ item.quantity
  prices : ∀ ing product, p.matcher.matchIngredient ing = some product → ∀ opt ∈ product.packages, 0 ≤ opt.amount

theorem Balanced.addLine (hexact : py.round = id) (hp : p.NonNegative) (hslots : (meals.map (·.slotIndex)).Nodup)
    (hd : d.Splits (meals.map (·.slotIndex)).toFinset) {key : LineKey}
    (hprices : ∀ line product, d.lineMeta.get? key = some line → line.product = some product →
      ∀ opt ∈ product.packages, 0 ≤ opt.amount)
    {prov : Provision} (h : Balanced prov (meals.map (·.slotIndex)).toFinset) :
    Balanced (addLine py p meals d prov key) (meals.map (·.slotIndex)).toFinset := by
  cases hline : d.lineMeta.get? key with
  | none =>
    simp only [Provisioner.addLine, hline]
    exact h
  | some line =>
    simp only [Provisioner.addLine, hline]
    cases hproduct : line.product.filter (·.packages ≠ []) with
    | none => exact ⟨by simpa [unpricedLine] using h.lines, h.imputed⟩
    | some product =>
      have hsome : line.product = some product := (Option.filter_eq_some_iff.mp hproduct).1
      cases hchoice : choosePackage py (p.pantry.pending py line.canonicalName (d.demand.getD key 0) line.targetUnit).2
          product.packages p.asOf p.weights.waste p.weights.cost with
      | none =>
        simp only [hchoice]
        exact ⟨by simpa [unpricedLine] using h.lines, h.imputed⟩
      | some choice =>
        obtain ⟨hopt, hresult⟩ := choosePackage_mem hchoice
        have hsub := totalCost_nonneg hexact (hprices line product hline hsome _ hopt) hresult
        have hzero : d.demand.getD key 0 = 0 → choice.result.totalCost = 0 := by
          intro hneeded
          rw [hneeded, pending_of_zero hexact (available_nonneg hexact hp.pantryFactors hp.stock _ _)] at hresult
          exact totalCost_of_nonpos hexact le_rfl hresult
        simp only [hchoice]
        constructor
        · simp only [List.map_append, List.sum_append, h.lines, pricedLine, List.map_cons, List.map_nil, List.sum_cons,
            List.sum_nil, add_zero, py.add_exact hexact]
          split
          · ring
          · ring
        · simp only [sum_impute hexact hslots hd key hsub hzero, h.imputed, py.add_exact hexact]
          split
          · ring
          · ring

theorem provision_balanced (hexact : py.round = id) (hp : p.NonNegative) (hslots : (meals.map (·.slotIndex)).Nodup)
    (hq : ∀ meal ∈ meals, ∀ ing ∈ meal.recipe.ingredients, 0 ≤ ing.quantity) :
    Balanced (provision py p meals) (meals.map (·.slotIndex)).toFinset := by
  have hsplits := demandOf_splits hexact hp.factors hq
  have hcollects := demandOf_collects py p meals
  have hprices : ∀ key ∈ (demandOf py p meals).demand.keys, ∀ line product,
      (demandOf py p meals).lineMeta.get? key = some line → line.product = some product →
        ∀ opt ∈ product.packages, 0 ≤ opt.amount := by
    intro key hkey line product hline hproduct
    obtain ⟨c, hc, -, hget⟩ := hcollects.lines key hkey
    obtain rfl := Option.some.inj (hline.symm.trans hget)
    obtain ⟨meal, -, hc⟩ := List.mem_flatMap.mp hc
    obtain ⟨ing, -, rfl⟩ := List.mem_map.mp hc
    rcases contribution_cases py p meal ing with ⟨bought, hbuys, -, hmatch⟩ | ⟨-, -, hmatch⟩
    · rw [hmatch] at hproduct
      obtain rfl := Option.some.inj hproduct
      exact hp.prices ing _ hbuys.1
    · rw [hmatch] at hproduct
      cases hproduct
  have hkeys : ∀ key ∈ (demandOf py p meals).demand.keys.insertionSort LineKey.upTo,
      key ∈ (demandOf py p meals).demand.keys :=
    fun key hk => (List.mem_insertionSort _).mp hk
  simp only [provision]
  generalize (demandOf py p meals).demand.keys.insertionSort LineKey.upTo = keys at hkeys
  induction keys using List.reverseRecOn with
  | nil => exact ⟨by simp, by simp [Dict.getD]⟩
  | append_singleton keys key ih =>
    rw [List.foldl_append, List.foldl_cons, List.foldl_nil]
    exact (ih fun k hk => hkeys k (List.mem_append_left _ hk)).addLine hexact hp hslots hsplits
      (hprices key (hkeys key (by simp)))

end Lines
end Provisioner
/-! ### The plan -/

section Plan
variable {py : Runtime} {inp : PlanInput}

/-- The totals of a plan are one number, and the budget leaves what is not spent. -/
structure PlanResult.TotalsAgree (budget : ℚ) (r : PlanResult) : Prop where
  split : r.costTotal.known + r.costTotal.estimated = r.costTotal.total
  lines : (r.groceryLines.map (·.subtotal)).sum = r.costTotal.total
  imputable : (r.plannedMeals.map (·.cost.imputable)).sum = r.costTotal.total
  marginal : (r.plannedMeals.map (·.cost.marginal)).sum = r.costTotal.total
  perDay : (r.costPerDay.map Prod.snd).sum = r.costTotal.total
  budgetDiff : r.budgetDiff = budget - r.costTotal.total

/-- No quantity, stock, price or conversion factor is negative. -/
structure PlanInput.NonNegative (inp : PlanInput) : Prop where
  ingredients : ∀ recipe ∈ inp.candidates, ∀ ing ∈ recipe.ingredients, 0 ≤ ing.quantity
  pantry : ∀ item ∈ inp.pantry, 0 ≤ item.quantity
  prices : ∀ product ∈ inp.catalog, ∀ opt ∈ product.packages, 0 ≤ opt.amount
  conversions : ∀ conv ∈ inp.conversions, 0 ≤ conv.factor

theorem productMatcher_mem {catalog : List CatalogProductDTO} {groups : Dict String (List String)} {name : String}
    {product : CatalogProductDTO} (h : (productMatcher catalog groups).byName.get? name = some product) :
    product ∈ catalog := by
  simp only [productMatcher] at h
  induction catalog using List.reverseRecOn with
  | nil => cases h
  | append_singleton catalog last ih =>
    rw [List.foldl_append, List.foldl_cons, List.foldl_nil, Dict.get?_setDefault] at h
    split at h
    · next hname =>
      cases hold : (catalog.foldl (fun byName product => byName.setDefault product.canonicalName product)
          Dict.empty).get? last.canonicalName with
      | none =>
        rw [Dict.getD, hold, Option.getD_none] at h
        simp [Option.some.inj h]
      | some first =>
        rw [Dict.getD, hold, Option.getD_some, ← hold, ← hname] at h
        exact List.mem_append_left _ (ih h)
    · exact List.mem_append_left _ (ih h)

theorem mem_of_matchIngredient {ing : RecipeIngredientDTO} {product : CatalogProductDTO}
    (h : inp.matcher.matchIngredient ing = some product) : product ∈ inp.catalog := by
  simp only [ProductMatcher.matchIngredient, ProductMatcher.resolve] at h
  split at h
  · next direct hdirect =>
    obtain rfl := Option.some.inj h
    exact productMatcher_mem hdirect
  · obtain ⟨group, -, hgroup⟩ := Option.bind_eq_some_iff.mp h
    obtain ⟨name, -, hname⟩ := List.exists_of_findSome?_eq_some hgroup
    exact productMatcher_mem hname

theorem PlanInput.NonNegative.provisioner (hexact : py.round = id) (h : inp.NonNegative) :
    Provisioner.NonNegative (inp.provisioner py) where
  factors := unitConverter_nonNegative hexact h.conversions
  pantryFactors := unitConverter_nonNegative hexact h.conversions
  stock item hitem := h.pantry item (List.mem_filter.mp hitem).1
  prices _ product hmatch := h.prices product (mem_of_matchIngredient hmatch)

theorem slots_index_nodup : (inp.slots.map (·.index)).Nodup := by
  simp only [PlanInput.slots, schedule, List.map_map]
  exact List.nodup_zipIdx_map_snd _

/-! ### The meals -/

theorem buildMeals_slotIndex {participants : List String} {slots : List MealSlot} {recipes : List CandidateRecipeDTO}
    (h : slots.length = recipes.length) :
    (buildMeals participants slots recipes).map (·.slotIndex) = slots.map (·.index) := by
  have hfst : ((slots.zip recipes).map Prod.fst).map (·.index) = slots.map (·.index) := by
    rw [List.map_fst_zip h.le]
  rw [← hfst, buildMeals, List.map_map, List.map_map]
  rfl

theorem provision_participants (p : Provisioner) (participants : List String) (slots : List MealSlot)
    (recipes : List CandidateRecipeDTO) :
    p.provision py (buildMeals participants slots recipes) = p.provision py (buildMeals [] slots recipes) := by
  have hmeals : buildMeals participants slots recipes =
      (buildMeals [] slots recipes).map fun meal => { meal with participants := participants } := by
    rw [buildMeals, buildMeals, List.map_map]
    rfl
  generalize buildMeals [] slots recipes = meals at hmeals
  have hdemand : Provisioner.demandOf py p (buildMeals participants slots recipes) = Provisioner.demandOf py p meals := by
    rw [hmeals, Provisioner.demandOf, Provisioner.demandOf, Provisioner.contributions, List.flatMap_map]
    rfl
  have himpute : Provisioner.impute py (buildMeals participants slots recipes) = Provisioner.impute py meals := by
    funext d key needed subtotal imputable
    rw [hmeals, Provisioner.impute, Provisioner.impute, List.foldl_map]
  have hline : Provisioner.addLine py p (buildMeals participants slots recipes) = Provisioner.addLine py p meals := by
    funext d prov key
    simp only [Provisioner.addLine, himpute]
  rw [Provisioner.provision, Provisioner.provision, hdemand, hline]

theorem sum_zipIdx_sub (f : ℕ → ℚ) (meals : List MealAssignment) (k : ℕ) :
    ((meals.zipIdx k).map fun p => f (p.2 + 1) - f p.2).sum = f (k + meals.length) - f k := by
  induction meals generalizing k with
  | nil => simp
  | cons meal meals ih =>
    rw [List.zipIdx_cons, List.map_cons, List.sum_cons, ih (k + 1), List.length_cons, Nat.add_right_comm k 1,
      Nat.add_assoc k]
    ring

theorem sum_marginal (hexact : py.round = id) (meals : List MealAssignment) (prov : Provision) :
    ((meals.zipIdx.map fun (meal, i) => inp.plannedMeal py meals prov meal i).map (·.cost.marginal)).sum =
      inp.costOfFirst py meals meals.length := by
  have hmarginal : (meals.zipIdx.map fun (meal, i) => inp.plannedMeal py meals prov meal i).map (·.cost.marginal) =
      meals.zipIdx.map fun p => inp.costOfFirst py meals (p.2 + 1) - inp.costOfFirst py meals p.2 := by
    rw [List.map_map]
    exact List.map_congr_left fun p _ => py.sub_exact hexact _ _
  rw [hmarginal, sum_zipIdx_sub, Nat.zero_add]
  exact sub_zero _

theorem sum_imputable (meals : List MealAssignment) (prov : Provision) :
    ((meals.zipIdx.map fun (meal, i) => inp.plannedMeal py meals prov meal i).map (·.cost.imputable)).sum =
      (meals.map (PlanInput.imputableOf prov)).sum := by
  have himputable : (meals.zipIdx.map fun (meal, i) => inp.plannedMeal py meals prov meal i).map (·.cost.imputable) =
      (meals.zipIdx.map Prod.fst).map (PlanInput.imputableOf prov) := by
    rw [List.map_map, List.map_map]
    exact List.map_congr_left fun p _ => by simp only [Function.comp_apply, PlanInput.plannedMeal]
  rw [himputable, List.zipIdx_map_fst]

theorem costOfFirst_length {meals : List MealAssignment} (hne : meals ≠ []) :
    inp.costOfFirst py meals meals.length = ((inp.provisioner py).provision py meals).costTotal py := by
  obtain ⟨n, hn⟩ := Nat.exists_eq_succ_of_ne_zero (List.length_pos_iff.mpr hne).ne'
  rw [hn, PlanInput.costOfFirst, ← Nat.succ_eq_add_one, ← hn, List.take_length]

theorem sum_costPerDay (hexact : py.round = id) (meals : List MealAssignment) (prov : Provision) :
    ((PlanInput.costPerDay py meals prov).map Prod.snd).sum = (meals.map (PlanInput.imputableOf prov)).sum := by
  have htally : meals.foldl (fun (d : Dict Date ℚ) meal =>
      d.set meal.date (py.add (d.getD meal.date 0) (PlanInput.imputableOf prov meal))) Dict.empty =
      Dict.empty.tally (meals.map fun meal => (meal.date, PlanInput.imputableOf prov meal)) := by
    rw [Dict.tally, List.foldl_map]
    simp only [Dict.bump, py.add_exact hexact]
  simp only [PlanInput.costPerDay, htally]
  rw [((List.perm_insertionSort _ _).map Prod.snd).sum_eq, Dict.sum_entries_tally, List.map_map]
  rfl

/-- With exact decimals the cost of a plan is that of its lines, of its meals, in either way of counting, and of its
    days. -/
theorem totalsAgree (hexact : py.round = id) (hinp : inp.NonNegative) {r : PlanResult}
    (h : generatePlan py inp = .completed r) : r.TotalsAgree inp.budget.amount := by
  rcases generatePlan_completed_iff.mp h with ⟨-, rfl⟩ | ⟨hs, recipes, hassigns, -, rfl⟩
  · constructor <;> simp [PlanInput.emptyPlan]
  · have hlength : inp.slots.length = recipes.length := hassigns.length_eq
    have hprov : inp.provisionOf py recipes =
        (inp.provisioner py).provision py (buildMeals (inp.members.map (·.memberAlias)) inp.slots recipes) :=
      (provision_participants _ _ _ _).symm
    have hindex : (buildMeals (inp.members.map (·.memberAlias)) inp.slots recipes).map (·.slotIndex) =
        inp.slots.map (·.index) := buildMeals_slotIndex hlength
    have hne : buildMeals (inp.members.map (·.memberAlias)) inp.slots recipes ≠ [] := by
      intro hnil
      rw [hnil, List.map_nil, eq_comm, List.map_eq_nil_iff] at hindex
      exact hs hindex
    have hquantities : ∀ meal ∈ buildMeals (inp.members.map (·.memberAlias)) inp.slots recipes,
        ∀ ing ∈ meal.recipe.ingredients, 0 ≤ ing.quantity := by
      intro meal hmeal
      obtain ⟨p, hp, rfl⟩ := List.mem_map.mp hmeal
      exact hinp.ingredients _ (mem_feasible_iff.mp (List.forall₂_zip hassigns hp)).1
    generalize hmeals : buildMeals (inp.members.map (·.memberAlias)) inp.slots recipes = meals at *
    have hnodup : (meals.map (·.slotIndex)).Nodup := hindex ▸ slots_index_nodup
    have hbalanced := Provisioner.provision_balanced hexact (hinp.provisioner hexact) hnodup hquantities
    rw [← hprov] at hbalanced
    have htotal : (inp.provisionOf py recipes).costTotal py =
        (inp.provisionOf py recipes).costKnown + (inp.provisionOf py recipes).costEstimated := py.add_exact hexact _ _
    have himputable : (meals.map (PlanInput.imputableOf (inp.provisionOf py recipes))).sum =
        (inp.provisionOf py recipes).costTotal py := by
      rw [htotal, ← hbalanced.imputed, List.sum_toFinset _ hnodup, List.map_map]
      exact congrArg List.sum (List.map_congr_left fun meal _ => by simp only [Function.comp_apply, PlanInput.imputableOf])
    simp only [PlanInput.buildResult, hmeals]
    refine ⟨htotal.symm, htotal ▸ hbalanced.lines, ?_, ?_, ?_, py.sub_exact hexact _ _⟩
    · rw [sum_imputable, himputable]
    · rw [sum_marginal hexact, costOfFirst_length hne, ← hprov]
    · rw [sum_costPerDay hexact, himputable]

end Plan

/-- The two lunches share a packet of rice, and some rice is at home. -/
def twoLunchesAtHome : PlanInput :=
  { twoLunches with pantry := [{ canonicalName := "arroz", quantity := 50, unit := "g" }] }

theorem totalsAgree_twoLunchesAtHome :
    ∃ r, generatePlan (Runtime.replay [1, 1, 0, 1, 1]) twoLunchesAtHome = .completed r ∧ r.TotalsAgree 5 := by
  have hplan : ((generatePlan (Runtime.replay [1, 1, 0, 1, 1]) twoLunchesAtHome).result?.any
      fun r => decide (0 < r.costTotal.total)) = true := by decide +kernel
  have hinp : twoLunchesAtHome.NonNegative :=
    ⟨by decide +kernel, by decide +kernel, by decide +kernel, by decide +kernel⟩
  obtain ⟨r, hr, -⟩ := exists_completed _ hplan
  exact ⟨r, hr, totalsAgree rfl hinp hr⟩

end CestaPlan.Engine
