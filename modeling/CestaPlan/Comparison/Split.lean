import CestaPlan.Comparison.PlanComparison
import CestaPlan.Engine.Coverage
import CestaPlan.Engine.MealOrder
import CestaPlan.Library.Least
import CestaPlan.Library.Buckets

/-! The split of a basket over the chains. A line of a chain has the name of the ingredient that reaches its product first, and the
    other ingredients of the product have no price of their own there. -/

namespace CestaPlan.Comparison
open Engine Provisioner

abbrev Chain := Retailer × List CatalogProductDTO

section Definitions
variable (py : Runtime) (plan : MealPlan) (chains : List Chain) (conversions : List IngredientConversionDTO) (asOf : Date)

/-- The engine at a chain. -/
def provisionerOf (chain : Chain) : Provisioner :=
  chainProvisioner (substitutionGroups (planMeals plan)) chain.2 (unitConverter py conversions) asOf

/-- The lines of a chain with a known price. -/
def pricedLines (chain : Chain) : List GroceryLineDTO :=
  ((provisionerOf py plan conversions asOf chain).provision py (planMeals plan)).groceryLines.filter (·.subtotalKnown)

/-- The chain's provision prices the ingredient: some of it goes into a line with a known price. -/
def Prices (chain : Chain) (name : String) : Prop :=
  ∃ meal ∈ planMeals plan, ∃ ing ∈ meal.recipe.ingredients, ing.canonicalName = name ∧
    ∃ line ∈ lineAt py (provisionerOf py plan conversions asOf chain) (planMeals plan)
      (contribution py (provisionerOf py plan conversions asOf chain) meal ing).key, line.subtotalKnown = true

structure Compared : Prop where
  single : ∀ best ∈ (comparePlanAcrossChains py plan chains conversions asOf).bestSingle, best.fullCoverage = true →
    (comparePlanAcrossChains py plan chains conversions asOf).splitTotal ≤ best.knownCost
  subtotals : ((comparePlanAcrossChains py plan chains conversions asOf).byChain.map (·.subtotal)).sum =
    (comparePlanAcrossChains py plan chains conversions asOf).splitTotal
  uncovered : ∀ item ∈ (comparePlanAcrossChains py plan chains conversions asOf).uncovered, ∀ chain ∈ chains,
    ¬Prices py plan conversions asOf chain item.canonicalName

/-- The ingredients that give a priced line of the chain its name. -/
def named (chain : Chain) : List String := (pricedLines py plan conversions asOf chain).map (·.canonicalName)

/-- The ingredients of the plan. -/
def ingredientNames (plan : MealPlan) : List String :=
  (planMeals plan).flatMap fun meal => meal.recipe.ingredients.map (·.canonicalName)

/-- The least price of a line with the name over the chains, where of a chain's lines with one name the first counts. -/
def leastPrice (name : String) : ℚ :=
  ((chains.filterMap fun chain => ((pricedLines py plan conversions asOf chain).find? (·.canonicalName = name)).map
    (·.subtotal)).min?).getD 0

/-- What the chain's lines with the name cost. -/
def paid (chain : Chain) (name : String) : ℚ :=
  ((Grouping.group (·.canonicalName) (pricedLines py plan conversions asOf chain) name).map (·.subtotal)).sum

/-- What the ingredients cost that name no line of the chain and are bought for themselves elsewhere. -/
def boughtElsewhere (chain : Chain) : ℚ :=
  (((ingredientNames plan).dedup.filter (· ∉ named py plan conversions asOf chain)).map
    (leastPrice py plan chains conversions asOf)).sum

/-- What is saved on the lines of the chain, name by name. -/
def saved (chain : Chain) : ℚ :=
  ((named py plan conversions asOf chain).dedup.map fun name =>
    paid py plan conversions asOf chain name - leastPrice py plan chains conversions asOf name).sum

/-- The chain prices something, and its coverage is full. -/
def PricesAll (chain : Chain) : Prop :=
  named py plan conversions asOf chain ≠ [] ∧
    (computeCoverage py ((provisionerOf py plan conversions asOf chain).provision py (planMeals plan)).groceryLines).priceCoverage = 1

/-- The context holds what the priced lines add up to, as many of them as the plan has ingredients at most. -/
def HoldsSums : Prop :=
  ∀ prices : List ℚ, prices.length ≤ (ingredientNames plan).length →
    (∀ x ∈ prices, ∃ chain ∈ chains, x ∈ (pricedLines py plan conversions asOf chain).map (·.subtotal)) →
      py.round prices.sum = prices.sum

structure Unshared : Prop where
  /-- An ingredient that a chain prices gives its name to a priced line of some chain. -/
  named : ∀ name, (∃ chain ∈ chains, Prices py plan conversions asOf chain name) →
    ∃ chain ∈ chains, name ∈ named py plan conversions asOf chain
  /-- At a chain with full coverage, what is bought elsewhere costs no more than is saved. -/
  cheap : ∀ chain ∈ chains, PricesAll py plan conversions asOf chain →
    boughtElsewhere py plan chains conversions asOf chain ≤ saved py plan chains conversions asOf chain

end Definitions

/-! ### The basket -/

section Basket
variable {py : Runtime} {factors : Factors} {meals : List MealAssignment}

/-- The entries are under their own names, which are those of the ingredients. -/
structure Consolidates (agg : Dict String BasketItem) (names : List String) : Prop where
  own : ∀ name item, agg.get? name = some item → item.canonicalName = name
  keys : ∀ name, name ∈ agg.keys ↔ name ∈ names

theorem Consolidates.add {agg : Dict String BasketItem} {names : List String} (h : Consolidates agg names)
    (meal : MealAssignment) (ing : RecipeIngredientDTO) :
    Consolidates (addToBasket py factors meal agg ing) (names ++ [ing.canonicalName]) where
  own name item hitem := by
    have hentry : (agg.getD ing.canonicalName
        { canonicalName := ing.canonicalName, displayName := ing.displayName, requiredQuantity := 0,
          requiredUnit := ing.unit }).canonicalName = ing.canonicalName := by
      rw [Dict.getD]
      cases hget : agg.get? ing.canonicalName with
      | none => rfl
      | some entry => exact h.own _ _ hget
    simp only [addToBasket, Dict.get?_set] at hitem
    split at hitem
    · next heq =>
      cases hitem
      exact hentry.trans heq.symm
    · exact h.own name item hitem
  keys name := by
    rw [addToBasket, Dict.mem_keys_set, h.keys, List.mem_append, List.mem_singleton, or_comm]

theorem consolidates (py : Runtime) (factors : Factors) (meals : List MealAssignment) :
    Consolidates (meals.foldl (fun agg meal => meal.recipe.ingredients.foldl (addToBasket py factors meal) agg) Dict.empty)
      (meals.flatMap fun meal => meal.recipe.ingredients.map (·.canonicalName)) := by
  have hmeal : ∀ meal (ings : List RecipeIngredientDTO) agg names, Consolidates agg names →
      Consolidates (ings.foldl (addToBasket py factors meal) agg) (names ++ ings.map (·.canonicalName)) := by
    intro meal ings
    induction ings with
    | nil => exact fun agg names h => by simpa using h
    | cons ing ings ih =>
      intro agg names h
      rw [List.foldl_cons, List.map_cons, List.append_cons]
      exact ih _ _ (h.add meal ing)
  induction meals using List.reverseRecOn with
  | nil => exact ⟨by simp, by simp [Dict.keys, Dict.empty]⟩
  | append_singleton meals meal ih =>
    rw [List.foldl_append, List.foldl_cons, List.foldl_nil, List.flatMap_append, List.flatMap_singleton]
    exact hmeal meal _ _ _ ih

theorem basket_names : (consolidateBasket py factors meals).map (·.canonicalName) =
    (meals.foldl (fun agg meal => meal.recipe.ingredients.foldl (addToBasket py factors meal) agg) Dict.empty).keys := by
  rw [consolidateBasket, List.map_map, Dict.keys]
  refine List.map_congr_left fun e he => ?_
  exact (consolidates py factors meals).own e.1 e.2 (Dict.mem_entries_iff.mp he)

theorem nodup_basket : ((consolidateBasket py factors meals).map (·.canonicalName)).Nodup := by
  rw [basket_names]
  exact Dict.nodup _

theorem mem_basket_names {name : String} : name ∈ (consolidateBasket py factors meals).map (·.canonicalName) ↔
    name ∈ meals.flatMap fun meal => meal.recipe.ingredients.map (·.canonicalName) := by
  rw [basket_names]
  exact (consolidates py factors meals).keys name

end Basket

/-! ### The split -/

section Splits
variable {py : Runtime} {results : List ChainResult} {basket : List BasketItem} {name : String}

theorem cheapest_eq_none_iff : cheapest results name = none ↔ ∀ r ∈ results, r.costs.get? name = none := by
  rw [cheapest, List.argmin_eq_none, offers, List.filterMap_eq_nil_iff]
  simp

/-- What an item adds to the total. -/
def itemPrice (results : List ChainResult) (item : BasketItem) : ℚ := ((cheapest results item.canonicalName).map (·.1)).getD 0

/-- What is bought: the items with an offer, each at the cheapest. -/
def bought (results : List ChainResult) (basket : List BasketItem) : List (BasketItem × ℚ × ChainResult) :=
  basket.filterMap fun item => (cheapest results item.canonicalName).map (item, ·)

theorem split_bought : (split py basket results).total = py.sum ((bought results basket).map (·.2.1)) ∧
    (split py basket results).itemsByRetailer =
      Buckets.buckets (·.2.2.retailer.id) (fun b => splitItem b.1 b.2.1) (bought results basket) := by
  unfold split bought Buckets.buckets Runtime.sum
  induction basket using List.reverseRecOn with
  | nil => exact ⟨rfl, rfl⟩
  | append_singleton basket last ih =>
    obtain ⟨htotal, hitems⟩ := ih
    rw [List.foldl_append, List.foldl_cons, List.foldl_nil, List.filterMap_append, addToSplit]
    cases hcheapest : cheapest results last.canonicalName with
    | none =>
      have hlast : [last].filterMap (fun item => (cheapest results item.canonicalName).map (item, ·)) = [] := by simp [hcheapest]
      rw [hlast, List.append_nil]
      exact ⟨htotal, hitems⟩
    | some o =>
      have hlast : [last].filterMap (fun item => (cheapest results item.canonicalName).map (item, ·)) = [(last, o)] := by
        simp [hcheapest]
      simp only [hlast, List.map_append, List.foldl_append, ← htotal, ← hitems]
      exact ⟨rfl, rfl⟩

theorem sum_bought : ((bought results basket).map (·.2.1)).sum = (basket.map (itemPrice results)).sum := by
  unfold bought itemPrice
  induction basket with
  | nil => rfl
  | cons item basket ih =>
    cases hcheapest : cheapest results item.canonicalName <;> simp [hcheapest, ih]

theorem splitByChain_subtotals (hheld : py.Holds ((bought results basket).map (·.2.1))) :
    ((splitByChain py results (split py basket results).itemsByRetailer).map (·.subtotal)).sum = (split py basket results).total := by
  rw [split_bought.1, split_bought.2, hheld.sum_eq, splitByChain, List.map_map]
  have hbucket : ∀ e ∈ (Buckets.buckets (·.2.2.retailer.id) (fun b => splitItem b.1 b.2.1) (bought results basket)).entries,
      py.sum (e.2.map (·.cost)) = (e.2.map (·.cost)).sum := by
    intro e he
    rw [Buckets.entries_buckets] at he
    obtain ⟨id, -, rfl⟩ := List.mem_map.mp he
    refine (hheld.sublist ?_).sum_eq
    rw [List.map_map]
    exact List.filter_sublist.map _
  have hperm := (List.perm_insertionSort (fun a b : Nat × List SplitItem =>
    (byId results (·.name)).getD a.1 "" ≤ (byId results (·.name)).getD b.1 "")
      (Buckets.buckets (·.2.2.retailer.id) (fun b => splitItem b.1 b.2.1) (bought results basket)).entries).map
        fun e => (e.2.map (·.cost)).sum
  refine (congrArg List.sum (List.map_congr_left fun e he => hbucket e ((List.mem_insertionSort _).mp he))).trans ?_
  refine hperm.sum_eq.trans ((foldl_measure (fun d : Dict Nat (List SplitItem) => (d.entries.map fun e => (e.2.map (·.cost)).sum).sum)
    _ (fun b : BasketItem × ℚ × ChainResult => b.2.1) (fun d b _ => Buckets.sum_push _ _ _ _) Dict.empty).trans (zero_add _))

theorem mem_uncovered {item : BasketItem} : item ∈ (split py basket results).uncovered ↔
    item ∈ basket ∧ cheapest results item.canonicalName = none := by
  unfold split
  induction basket using List.reverseRecOn with
  | nil => simp
  | append_singleton basket last ih =>
    rw [List.foldl_append, List.foldl_cons, List.foldl_nil, addToSplit]
    cases hcheapest : cheapest results last.canonicalName with
    | none =>
      rw [List.mem_append, ih, List.mem_append, List.mem_singleton]
      constructor
      · rintro (⟨hmem, hnone⟩ | rfl)
        · exact ⟨.inl hmem, hnone⟩
        · exact ⟨.inr rfl, hcheapest⟩
      · rintro ⟨hmem | rfl, hnone⟩
        · exact .inl ⟨hmem, hnone⟩
        · exact .inr rfl
    | some o =>
      rw [ih, List.mem_append, List.mem_singleton]
      refine and_congr_left fun hnone => (or_iff_left ?_).symm
      rintro rfl
      cases hcheapest.symm.trans hnone

end Splits

/-! ### The chains -/

section Chains
variable {py : Runtime} {plan : MealPlan} {chains : List Chain} {conversions : List IngredientConversionDTO} {asOf : Date}
  {chain : Chain} {name : String} {best : ChainResult}

theorem mem_chainResults {r : ChainResult} : r ∈ chainResults py plan chains conversions asOf ↔ ∃ chain ∈ chains,
    r = chainResult py chain.1 ((provisionerOf py plan conversions asOf chain).provision py (planMeals plan)) := by
  unfold chainResults
  simp only [List.mem_map, eq_comm]
  rfl

theorem bestSingle_priced {results : List ChainResult} (h : best ∈ bestSingle results) :
    best ∈ results ∧ best.costs.entries ≠ [] := by
  have hpriced : best ∈ results.filter (!·.costs.entries.isEmpty) := by
    have hmem := List.argmin_mem h
    split at hmem
    · exact (List.mem_filter.mp hmem).1
    · exact (List.mem_filter.mp hmem).1
  obtain ⟨hmem, hcosts⟩ := List.mem_filter.mp hpriced
  exact ⟨hmem, fun hnil => by simp [hnil] at hcosts⟩

theorem exists_bestSingle {results : List ChainResult} {r : ChainResult} (hr : r ∈ results) (hcosts : r.costs.entries ≠ [])
    (hfull : r.fullCoverage = true) :
    ∃ best ∈ bestSingle results, best.fullCoverage = true ∧ best.knownCost ≤ r.knownCost := by
  have hmem : r ∈ (results.filter (!·.costs.entries.isEmpty)).filter (·.fullCoverage) := by
    simp [hr, hcosts, hfull]
  obtain ⟨best, hbest⟩ := Least.exists_argmin (f := fun r : ChainResult => toLex (-r.ratio, toLex (r.knownCost, r.retailer.name)))
    (List.ne_nil_of_mem hmem)
  have hratio : ∀ r : ChainResult, r.fullCoverage = true → r.ratio = 1 := fun r h => of_decide_eq_true h
  have hbestFull := (List.mem_filter.mp (List.argmin_mem hbest)).2
  refine ⟨best, ?_, hbestFull, ?_⟩
  · have hne : ((results.filter (!·.costs.entries.isEmpty)).filter (·.fullCoverage)).isEmpty = false :=
      Bool.eq_false_iff.mpr fun hnil => List.not_mem_nil (List.isEmpty_iff.mp hnil ▸ hmem)
    simp only [bestSingle, hne, Bool.false_eq_true, if_false]
    exact hbest
  · have hle := List.le_of_mem_argmin hmem hbest
    rw [hratio best hbestFull, hratio r hfull] at hle
    obtain hlt | ⟨-, hle⟩ := Prod.Lex.toLex_le_toLex.mp hle
    · exact absurd hlt (lt_irrefl _)
    · exact (Prod.Lex.toLex_le_toLex.mp hle).elim le_of_lt fun h => h.1.le

theorem get?_chainCosts (name : String) :
    (chainCosts ((provisionerOf py plan conversions asOf chain).provision py (planMeals plan))).get? name =
      ((pricedLines py plan conversions asOf chain).find? (·.canonicalName = name)).map (·.subtotal) := by
  rw [chainCosts, Dict.get?_foldl_setDefault, Dict.get?_empty, Option.none_or]
  rfl

theorem chainCosts_isSome_iff : ((chainCosts ((provisionerOf py plan conversions asOf chain).provision py
    (planMeals plan))).get? name).isSome = true ↔ name ∈ named py plan conversions asOf chain := by
  rw [get?_chainCosts, Option.isSome_map, List.find?_isSome, named, List.mem_map]
  exact exists_congr fun line => and_congr_right fun _ => decide_eq_true_iff

theorem chainCosts_ne_nil_iff : (chainCosts ((provisionerOf py plan conversions asOf chain).provision py
    (planMeals plan))).entries ≠ [] ↔ named py plan conversions asOf chain ≠ [] := by
  constructor
  · intro h
    obtain ⟨e, he⟩ := List.exists_mem_of_ne_nil _ h
    have hname : e.1 ∈ named py plan conversions asOf chain := by
      rw [← chainCosts_isSome_iff, Dict.mem_entries_iff.mp he]
      rfl
    exact List.ne_nil_of_mem hname
  · intro h
    obtain ⟨name, hname⟩ := List.exists_mem_of_ne_nil _ h
    obtain ⟨cost, hcost⟩ := Option.isSome_iff_exists.mp (chainCosts_isSome_iff.mpr hname)
    exact List.ne_nil_of_mem ((@Dict.mem_entries_iff _ _ _ _ name cost).mpr hcost)

theorem itemPrice_eq (item : BasketItem) : itemPrice (chainResults py plan chains conversions asOf) item =
    leastPrice py plan chains conversions asOf item.canonicalName := by
  have hoffers : (offers (chainResults py plan chains conversions asOf) item.canonicalName).map (·.1) =
      chains.filterMap fun chain =>
        ((pricedLines py plan conversions asOf chain).find? (·.canonicalName = item.canonicalName)).map (·.subtotal) := by
    rw [offers, List.map_filterMap, chainResults, List.filterMap_map]
    refine List.filterMap_congr fun chain _ => ?_
    rw [← get?_chainCosts, Function.comp_apply, Option.map_map]
    exact Option.map_id'
  rw [itemPrice, cheapest, Least.map_argmin_lex, hoffers, leastPrice]

theorem cheapest_eq_none_iff_named : cheapest (chainResults py plan chains conversions asOf) name = none ↔
    ∀ chain ∈ chains, name ∉ named py plan conversions asOf chain := by
  rw [cheapest_eq_none_iff]
  constructor
  · intro h chain hchain hnamed
    have hnone := h _ (mem_chainResults.mpr ⟨chain, hchain, rfl⟩)
    rw [← chainCosts_isSome_iff, Option.isSome_iff_ne_none] at hnamed
    exact hnamed hnone
  · intro h r hr
    obtain ⟨chain, hchain, rfl⟩ := mem_chainResults.mp hr
    have hno := h chain hchain
    rwa [← chainCosts_isSome_iff, Bool.not_eq_true, Option.isSome_eq_false_iff, Option.isNone_iff_eq_none] at hno

theorem named_subset (h : name ∈ named py plan conversions asOf chain) : name ∈ ingredientNames plan := by
  obtain ⟨line, hline, rfl⟩ := List.mem_map.mp h
  obtain ⟨key, hkey⟩ := mem_groceryLines.mp (List.mem_filter.mp hline).1
  obtain ⟨meal, hmeal, first, hfirst, rfl⟩ := exists_reached hkey
  obtain ⟨ing, hing, -, rfl⟩ := mem_reached hfirst
  rw [boughtLine_canonicalName]
  refine List.mem_flatMap.mpr ⟨meal, hmeal, List.mem_map.mpr ⟨ing, hing, ?_⟩⟩
  rcases contribution_cases py (provisionerOf py plan conversions asOf chain) meal ing with ⟨_, -, -, hline⟩ | ⟨-, -, hline⟩
  · rw [hline]
    rfl
  · rw [hline]
    rfl

theorem costKnown_eq (p : Provisioner) (meals : List MealAssignment) :
    (p.provision py meals).costKnown = py.sum (((p.provision py meals).groceryLines.filter (·.subtotalKnown)).map (·.subtotal)) := by
  have hcosts := (provision_lines py p meals).2
  rw [← (provision_lines py p meals).1] at hcosts
  have hpriced : ∀ line ∈ (p.provision py meals).groceryLines, line.packagePrice = none → line.subtotalKnown = false := by
    intro line hline hnone
    obtain ⟨key, hkey⟩ := mem_groceryLines.mp hline
    obtain ⟨_, -, first, -, rfl⟩ := exists_reached hkey
    rcases boughtLine_cases py p first (total py p meals key) with ⟨-, hline⟩ | ⟨product, -, ⟨-, hline⟩ | ⟨choice, -, hline⟩⟩
    · rw [hline]
      rfl
    · rw [hline]
      rfl
    · rw [hline] at hnone
      cases hnone
  have hfold : ∀ (lines : List GroceryLineDTO) (costs : ℚ × ℚ),
      (∀ line ∈ lines, line.packagePrice = none → line.subtotalKnown = false) →
        (lines.foldl (charge py) costs).1 = ((lines.filter (·.subtotalKnown)).map (·.subtotal)).foldl py.add costs.1 := by
    intro lines
    induction lines with
    | nil => exact fun _ _ => rfl
    | cons line lines ih =>
      intro costs hlines
      rw [List.foldl_cons, ih _ fun l hl => hlines l (List.mem_cons_of_mem _ hl), charge]
      cases hprice : line.packagePrice with
      | none => rw [List.filter_cons_of_neg (by simp [hlines line List.mem_cons_self hprice])]; rfl
      | some price => cases hknown : line.subtotalKnown <;> simp [hknown]
  exact (congrArg Prod.fst hcosts).trans (hfold _ _ hpriced)

theorem length_groceryLines_le (p : Provisioner) (meals : List MealAssignment) : (p.provision py meals).groceryLines.length ≤
    (meals.flatMap fun meal => meal.recipe.ingredients.map (·.canonicalName)).length := by
  have hkeys : (demandOf py p meals).demand.keys ⊆ (contributions py p meals).map (·.2.key) := by
    intro key hkey
    obtain ⟨c, hc, hkey⟩ := ((demandOf_collects py p meals).keys key).mp hkey
    exact List.mem_map.mpr ⟨c, hc, hkey⟩
  calc (p.provision py meals).groceryLines.length ≤ (keysOf py p meals).length := by
        rw [groceryLines_eq]
        exact List.length_filterMap_le _ _
    _ = (demandOf py p meals).demand.keys.length := (List.perm_insertionSort _ _).length_eq
    _ ≤ ((contributions py p meals).map (·.2.key)).length := (List.subperm_of_subset (Dict.nodup _) hkeys).length_le
    _ = _ := by simp [contributions, List.length_flatMap]

theorem sum_leastPrice (chain : Chain) : ((ingredientNames plan).dedup.map (leastPrice py plan chains conversions asOf)).sum =
    ((named py plan conversions asOf chain).dedup.map (leastPrice py plan chains conversions asOf)).sum +
      boughtElsewhere py plan chains conversions asOf chain := by
  have hnamed : ((ingredientNames plan).dedup.filter (· ∈ named py plan conversions asOf chain)).Perm
      (named py plan conversions asOf chain).dedup := by
    refine (List.perm_ext_iff_of_nodup ((List.nodup_dedup _).filter _) (List.nodup_dedup _)).mpr fun name => ?_
    rw [List.mem_filter, List.mem_dedup, List.mem_dedup, decide_eq_true_iff]
    exact and_iff_right_of_imp named_subset
  have hparts : ((ingredientNames plan).dedup.filter (· ∈ named py plan conversions asOf chain) ++
      (ingredientNames plan).dedup.filter (· ∉ named py plan conversions asOf chain)).Perm (ingredientNames plan).dedup := by
    have h := List.filter_append_perm (· ∈ named py plan conversions asOf chain) (ingredientNames plan).dedup
    simpa only [decide_not] using h
  rw [← (hparts.map _).sum_eq, List.map_append, List.sum_append, (hnamed.map _).sum_eq]
  rfl

theorem knownTotal_eq : knownTotal ((provisionerOf py plan conversions asOf chain).provision py (planMeals plan)).groceryLines =
    ((named py plan conversions asOf chain).dedup.map (paid py plan conversions asOf chain)).sum :=
  (Grouping.sum_group _ _ _).symm

section Held
variable (hheld : HoldsSums py plan chains conversions asOf)
include hheld

theorem HoldsSums.holds {prices : List ℚ} (hlength : prices.length ≤ (ingredientNames plan).length)
    (hprices : ∀ x ∈ prices, ∃ chain ∈ chains, x ∈ (pricedLines py plan conversions asOf chain).map (·.subtotal)) :
    py.Holds prices := fun _ hsub => hheld _ (hsub.length_le.trans hlength) fun x hx => hprices x (hsub.subset hx)

theorem HoldsSums.pricedLines (hchain : chain ∈ chains) :
    py.Holds ((pricedLines py plan conversions asOf chain).map (·.subtotal)) := by
  refine hheld.holds ?_ fun x hx => ⟨chain, hchain, hx⟩
  rw [List.length_map]
  exact (List.length_filter_le _ _).trans (length_groceryLines_le _ _)

theorem HoldsSums.bought : py.Holds ((bought (chainResults py plan chains conversions asOf)
    (consolidateBasket py (unitConverter py conversions) (planMeals plan))).map (·.2.1)) := by
  refine hheld.holds ?_ ?_
  · have hbasket := (List.subperm_of_subset (@nodup_basket py (unitConverter py conversions) (planMeals plan)) fun _ =>
      mem_basket_names.mp).length_le
    rw [List.length_map] at hbasket ⊢
    exact (List.length_filterMap_le _ _).trans hbasket
  · intro x hx
    obtain ⟨b, hb, rfl⟩ := List.mem_map.mp hx
    obtain ⟨item, -, hitem⟩ := List.mem_filterMap.mp hb
    obtain ⟨o, ho, rfl⟩ := Option.map_eq_some_iff.mp hitem
    obtain ⟨r, hr, hoffer⟩ := List.mem_filterMap.mp (List.argmin_mem ho)
    obtain ⟨cost, hcost, rfl⟩ := Option.map_eq_some_iff.mp hoffer
    obtain ⟨chain, hchain, rfl⟩ := mem_chainResults.mp hr
    refine ⟨chain, hchain, ?_⟩
    obtain ⟨line, hline, rfl⟩ := Option.map_eq_some_iff.mp ((get?_chainCosts _).symm.trans hcost)
    exact List.mem_map_of_mem (List.mem_of_find?_eq_some hline)

theorem HoldsSums.costKnown (hchain : chain ∈ chains) :
    ((provisionerOf py plan conversions asOf chain).provision py (planMeals plan)).costKnown =
      knownTotal ((provisionerOf py plan conversions asOf chain).provision py (planMeals plan)).groceryLines :=
  (costKnown_eq _ _).trans (hheld.pricedLines hchain).sum_eq

theorem HoldsSums.splitTotal : (comparePlanAcrossChains py plan chains conversions asOf).splitTotal =
    ((ingredientNames plan).dedup.map (leastPrice py plan chains conversions asOf)).sum := by
  have hbasket : ((consolidateBasket py (unitConverter py conversions) (planMeals plan)).map (·.canonicalName)).Perm
      (ingredientNames plan).dedup :=
    (List.perm_ext_iff_of_nodup nodup_basket (List.nodup_dedup _)).mpr fun name =>
      mem_basket_names.trans List.mem_dedup.symm
  calc (comparePlanAcrossChains py plan chains conversions asOf).splitTotal
      = ((consolidateBasket py (unitConverter py conversions) (planMeals plan)).map
          (itemPrice (chainResults py plan chains conversions asOf))).sum :=
        split_bought.1.trans (hheld.bought.sum_eq.trans sum_bought)
    _ = (((consolidateBasket py (unitConverter py conversions) (planMeals plan)).map (·.canonicalName)).map
          (leastPrice py plan chains conversions asOf)).sum := by
        rw [List.map_map]
        exact congrArg List.sum (List.map_congr_left fun item _ => itemPrice_eq item)
    _ = _ := (hbasket.map _).sum_eq

/-- The split is no dearer than the chain exactly if what is bought elsewhere is no dearer than what is saved. -/
theorem HoldsSums.splitTotal_le_iff (hchain : chain ∈ chains) : (comparePlanAcrossChains py plan chains conversions asOf).splitTotal ≤
    ((provisionerOf py plan conversions asOf chain).provision py (planMeals plan)).costKnown ↔
      boughtElsewhere py plan chains conversions asOf chain ≤ saved py plan chains conversions asOf chain := by
  have hsaved : saved py plan chains conversions asOf chain =
      ((named py plan conversions asOf chain).dedup.map (paid py plan conversions asOf chain)).sum -
        ((named py plan conversions asOf chain).dedup.map (leastPrice py plan chains conversions asOf)).sum := by
    have h := Multiset.sum_map_sub (m := (named py plan conversions asOf chain).dedup) (f := paid py plan conversions asOf chain)
      (g := leastPrice py plan chains conversions asOf)
    simpa only [saved, Multiset.map_coe, Multiset.sum_coe] using h
  rw [hheld.splitTotal, hheld.costKnown hchain, sum_leastPrice chain, knownTotal_eq, hsaved, le_sub_iff_add_le, add_comm]

end Held

end Chains

/-- The comparison is right exactly if every ingredient that is priced has a line of its own somewhere, and what is bought for
    those without one at a chain of full coverage is no more than what the split saves there. -/
theorem compared_iff {py : Runtime} {plan : MealPlan} {chains : List Chain} {conversions : List IngredientConversionDTO} {asOf : Date}
    (hheld : HoldsSums py plan chains conversions asOf) :
    Compared py plan chains conversions asOf ↔ Unshared py plan chains conversions asOf := by
  constructor
  · intro h
    constructor
    · rintro name ⟨chain, hchain, hprices⟩
      by_contra! hnone
      obtain ⟨meal, hmeal, ing, hing, rfl, -⟩ := id hprices
      have hmem : ing.canonicalName ∈
          (consolidateBasket py (unitConverter py conversions) (planMeals plan)).map (·.canonicalName) :=
        mem_basket_names.mpr (List.mem_flatMap.mpr ⟨meal, hmeal, List.mem_map_of_mem hing⟩)
      obtain ⟨item, hitem, hname⟩ := List.mem_map.mp hmem
      refine h.uncovered item (mem_uncovered.mpr ⟨hitem, ?_⟩) chain hchain (hname ▸ hprices)
      rw [hname]
      exact cheapest_eq_none_iff_named.mpr hnone
    · rintro chain hchain ⟨hne, hfull⟩
      obtain ⟨best, hbest, hbestFull, hle⟩ := exists_bestSingle (mem_chainResults.mpr ⟨chain, hchain, rfl⟩)
        (chainCosts_ne_nil_iff.mpr hne) (decide_eq_true hfull)
      exact (hheld.splitTotal_le_iff hchain).mp ((h.single best hbest hbestFull).trans hle)
  · intro h
    constructor
    · intro best hbest hfull
      obtain ⟨hmem, hcosts⟩ := bestSingle_priced hbest
      obtain ⟨chain, hchain, rfl⟩ := mem_chainResults.mp hmem
      exact (hheld.splitTotal_le_iff hchain).mpr
        (h.cheap chain hchain ⟨chainCosts_ne_nil_iff.mp hcosts, of_decide_eq_true hfull⟩)
    · exact splitByChain_subtotals hheld.bought
    · intro item hitem chain hchain hprices
      obtain ⟨chain', hchain', hnamed⟩ := h.named _ ⟨chain, hchain, hprices⟩
      exact cheapest_eq_none_iff_named.mp (mem_uncovered.mp hitem).2 chain' hchain' hnamed

/-! ### Amounts that are held -/

theorem sum_amounts {scale bound : ℕ} {xs : List ℚ} (h : ∀ x ∈ xs, ∃ n : ℤ, |n| ≤ bound ∧ x = n / 10 ^ scale) :
    ∃ n : ℤ, |n| ≤ xs.length * bound ∧ xs.sum = n / 10 ^ scale := by
  induction xs with
  | nil => exact ⟨0, by simp, by simp⟩
  | cons x xs ih =>
    obtain ⟨m, hm, hsum⟩ := ih fun y hy => h y (List.mem_cons_of_mem _ hy)
    obtain ⟨n, hn, rfl⟩ := h x List.mem_cons_self
    refine ⟨n + m, ?_, by rw [List.sum_cons, hsum, Int.cast_add, add_div]⟩
    calc |n + m| ≤ |n| + |m| := abs_add_le n m
      _ ≤ bound + xs.length * bound := add_le_add hn hm
      _ = (xs.length + 1 : ℕ) * bound := by push_cast; ring

/-- In the decimal context the sums are held unless there are amounts of more than 28 digits for all the ingredients together. -/
theorem holdsSums_of_amounts {py : Runtime} (hround : py.round = Numeric.roundContext) {plan : MealPlan} {chains : List Chain}
    {conversions : List IngredientConversionDTO} {asOf : Date} {scale bound : ℕ}
    (hbound : (ingredientNames plan).length * bound < 10 ^ Numeric.contextPrec)
    (hlines : ∀ chain ∈ chains, ∀ line ∈ pricedLines py plan conversions asOf chain,
      ∃ n : ℤ, |n| ≤ bound ∧ line.subtotal = n / 10 ^ scale) : HoldsSums py plan chains conversions asOf := by
  intro prices hlength hprices
  have hamounts : ∀ x ∈ prices, ∃ n : ℤ, |n| ≤ bound ∧ x = n / 10 ^ scale := by
    intro x hx
    obtain ⟨chain, hchain, hx⟩ := hprices x hx
    obtain ⟨line, hline, hx⟩ := List.mem_map.mp hx
    exact hx ▸ hlines chain hchain line hline
  obtain ⟨n, hn, hsum⟩ := sum_amounts hamounts
  have hfits : |n| < 10 ^ Numeric.contextPrec := by
    refine hn.trans_lt ?_
    exact_mod_cast (Nat.mul_le_mul_right bound hlength).trans_lt hbound
  rw [hround, hsum, Numeric.roundContext_of_int hfits]

/-! ### Ingredients that share a product -/

def tomatoes (productId canonicalName : String) : CatalogProductDTO where
  productId := productId
  canonicalName := canonicalName
  displayName := "Tomates"
  packages := [{ productId := productId, packageQuantity := 500, packageUnit := "g", amount := 2, sourceType := "manual_entry" }]

def salad : MealPlan where
  publicId := "plan"
  currency := "EUR"
  startDate := 1
  planned := [{ recipeId := 1, mealType := .lunch, servings := 1 }]
  recipes := [{ id := 1, title := "Ensalada", servings := 1, ingredients :=
    [{ canonicalName := "tomate", quantity := 200, unit := "g" }, { canonicalName := "tomate pera", quantity := 100, unit := "g" }] }]

/-- A chain with one product for both. -/
def oneTomato : Chain := (⟨1, "r1", "Centro"⟩, [tomatoes "9" "tomate", tomatoes "9" "tomate pera"])

/-- A chain with a product for each. -/
def twoTomatoes : Chain := (⟨2, "r2", "Norte"⟩, [tomatoes "7" "tomate", tomatoes "8" "tomate pera"])

theorem compared_twoTomatoes : Compared Runtime.decimals salad [twoTomatoes] [] 1 := by
  have hheld : HoldsSums Runtime.decimals salad [twoTomatoes] [] 1 := by
    refine @holdsSums_of_amounts _ rfl _ _ _ _ 0 2 (by decide +kernel) fun chain hchain line hline => ⟨2, le_rfl, ?_⟩
    obtain rfl := List.mem_singleton.mp hchain
    have htwo : ∀ line ∈ pricedLines Runtime.decimals salad [] 1 twoTomatoes, line.subtotal = 2 := by decide +kernel
    rw [htwo line hline]
    norm_num
  refine (compared_iff hheld).mpr ⟨?_, ?_⟩
  · rintro name ⟨chain, hchain, meal, hmeal, ing, hing, rfl, -⟩
    have hnamed : ∀ name ∈ ingredientNames salad, name ∈ named Runtime.decimals salad [] 1 twoTomatoes := by decide +kernel
    exact ⟨twoTomatoes, List.mem_cons_self, hnamed _ (List.mem_flatMap.mpr ⟨meal, hmeal, List.mem_map_of_mem hing⟩)⟩
  · intro chain hchain _
    obtain rfl := List.mem_singleton.mp hchain
    decide +kernel

/-- The second ingredient is in the line of the first one, and reported as uncovered. -/
theorem not_compared_oneTomato : ¬Compared Runtime.decimals salad [oneTomato] [] 1 := by
  intro h
  have hprices : Prices Runtime.decimals salad [] 1 oneTomato "tomate pera" := by
    have hline : (lineAt Runtime.decimals (provisionerOf Runtime.decimals salad [] 1 oneTomato) (planMeals salad)
        (.product "9")).any (·.subtotalKnown) = true := by decide +kernel
    obtain ⟨line, hline, hknown⟩ := (Option.any_eq_true _ _).mp hline
    refine ⟨_, List.mem_cons_self, _, List.mem_cons_of_mem _ List.mem_cons_self, rfl, line, ?_, hknown⟩
    have hkey : (contribution Runtime.decimals (provisionerOf Runtime.decimals salad [] 1 oneTomato)
        (planMeals salad)[0] (planMeals salad)[0].recipe.ingredients[1]).key = .product "9" := by decide +kernel
    exact hkey ▸ hline
  have huncovered : (comparePlanAcrossChains Runtime.decimals salad [oneTomato] [] 1).uncovered =
      [{ canonicalName := "tomate pera", displayName := "tomate pera", requiredQuantity := 100, requiredUnit := "g" }] := by
    decide +kernel
  exact h.uncovered _ (huncovered ▸ List.mem_singleton_self _) oneTomato List.mem_cons_self hprices

end CestaPlan.Comparison
