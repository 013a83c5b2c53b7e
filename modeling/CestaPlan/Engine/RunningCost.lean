import CestaPlan.Engine.FormatUnits
import CestaPlan.Engine.PantryShares
import CestaPlan.Engine.Totals

/-! What one more meal costs. A line is charged for the format that is chosen anew for its whole demand, and a larger demand may go
    over to a format that costs less. -/

namespace CestaPlan.Engine
namespace Provisioner

section Definitions
variable (py : Runtime) (p : Provisioner)

/-- Provisioning one more meal never costs less. -/
def GrowsDearer : Prop := ∀ meals meal, (∀ m ∈ meals ++ [meal], ∀ ing ∈ m.recipe.ingredients, 0 ≤ ing.quantity) →
  (provision py p meals).costTotal py ≤ (provision py p (meals ++ [meal])).costTotal py

/-- The format that is preferred for a larger demand does not cost less. -/
def Steady (product : CatalogProductDTO) : Prop := ∀ demand demand', 0 ≤ demand → demand ≤ demand' →
  ∀ a ∈ p.preferred product demand, ∀ b ∈ p.preferred product demand', a.cost demand ≤ b.cost demand'

/-- What a product costs for a demand. -/
def costFor (product : CatalogProductDTO) (demand : ℚ) : ℚ := ((p.preferred product demand).map (·.cost demand)).getD 0

/-- What the line of a key costs, if there is one. -/
def paid (meals : List MealAssignment) (key : LineKey) : ℚ := ((lineAt py p meals key).map (·.subtotal)).getD 0

end Definitions

section Costs
variable {py : Runtime} {p : Provisioner} {product : CatalogProductDTO} {demand demand' : ℚ}

theorem preferred_isSome : (p.preferred product demand).isSome = (p.preferred product demand').isSome := by
  rw [Bool.eq_iff_iff, Option.isSome_iff_ne_none, Option.isSome_iff_ne_none]
  unfold preferred
  rw [ne_eq, ne_eq, List.argmin_eq_none, List.argmin_eq_none]

theorem costFor_mono_iff : p.Steady product ↔
    ∀ demand demand', 0 ≤ demand → demand ≤ demand' → p.costFor product demand ≤ p.costFor product demand' := by
  refine forall₄_congr fun demand demand' _ _ => ?_
  have hsome : (p.preferred product demand).isSome = (p.preferred product demand').isSome := preferred_isSome
  unfold costFor
  cases ha : p.preferred product demand with
  | none =>
    rw [ha, Option.isSome_none, eq_comm, Option.isSome_eq_false_iff, Option.isNone_iff_eq_none] at hsome
    simp [hsome]
  | some a =>
    rw [ha, Option.isSome_some, eq_comm, Option.isSome_iff_exists] at hsome
    obtain ⟨b, hb⟩ := hsome
    simp [hb]

theorem costFor_nonneg (hprices : ∀ opt ∈ product.packages, 0 ≤ opt.amount) : 0 ≤ p.costFor product demand := by
  unfold costFor
  cases ha : p.preferred product demand with
  | none => exact le_rfl
  | some a =>
    have hamount := hprices a (List.mem_filter.mp (List.argmin_mem ha)).1
    show 0 ≤ a.cost demand
    unfold PackageOptionDTO.cost
    positivity

theorem wholePackages_mono {quantity : ℚ} (hq : 0 < quantity) (h : demand ≤ demand') :
    wholePackages demand quantity ≤ wholePackages demand' quantity :=
  Int.toNat_le_toNat (Int.ceil_le_ceil (div_le_div_of_nonneg_right (max_le_max_right 0 h) hq.le))

theorem steady_of_single {opt : PackageOptionDTO} (hpackages : product.packages = [opt]) (hamount : 0 ≤ opt.amount) :
    p.Steady product := by
  intro demand demand' _ hle a ha b hb
  obtain ⟨hmem, hq⟩ := List.mem_filter.mp (List.argmin_mem ha)
  obtain rfl : a = opt := List.mem_singleton.mp (hpackages ▸ hmem)
  obtain rfl : b = a := List.mem_singleton.mp (hpackages ▸ (List.mem_filter.mp (List.argmin_mem hb)).1)
  have hcount : (wholePackages demand b.packageQuantity : ℚ) ≤ wholePackages demand' b.packageQuantity := by
    exact_mod_cast wholePackages_mono (of_decide_eq_true hq) hle
  exact mul_le_mul_of_nonneg_right hcount hamount

end Costs

/-! ### The lines of more meals -/

section Lines
variable {py : Runtime} {p : Provisioner} {meals meals' : List MealAssignment} {meal : MealAssignment} {key : LineKey}
variable {line : LineMeta} {needed needed' : ℚ}

theorem totalCost_choiceFor (hexact : py.round = id) (opt : PackageOptionDTO) (pending : ℚ) (asOf : Option Date) :
    (choiceFor py pending asOf opt).result.totalCost = opt.cost pending := by
  have hcount : packagesFor py (max (py.sub pending 0) 0) opt.packageQuantity = wholePackages pending opt.packageQuantity :=
    @packages_choiceFor py pending asOf opt hexact
  simp only [choiceFor, resultFor, hcount, py.mul_exact hexact, PackageOptionDTO.cost]

theorem boughtLine_subtotal (hexact : py.round = id) : (boughtLine py p line needed).subtotal =
    (line.product.map (p.costFor · (p.pantry.pending py line.canonicalName needed line.targetUnit).2)).getD 0 := by
  rcases boughtLine_cases py p line needed with ⟨hproduct, hline⟩ |
      ⟨product, hproduct, ⟨hchoice, hline⟩ | ⟨choice, hchoice, hline⟩⟩
  · rw [hline]
    cases hsome : line.product with
    | none => rfl
    | some product =>
      have hpackages : product.packages = [] := by
        simpa [hsome, Option.filter_eq_none_iff] using hproduct
      rw [Option.map_some, Option.getD_some, costFor, preferred, hpackages]
      rfl
  · rw [choosePackage_exact hexact, Option.map_eq_none_iff] at hchoice
    rw [hline, (Option.filter_eq_some_iff.mp hproduct).1, Option.map_some, Option.getD_some, costFor, preferred, hchoice]
    rfl
  · rw [choosePackage_exact hexact] at hchoice
    obtain ⟨opt, hopt, rfl⟩ := Option.map_eq_some_iff.mp hchoice
    rw [hline, (Option.filter_eq_some_iff.mp hproduct).1, Option.map_some, Option.getD_some, costFor, preferred, hopt]
    exact totalCost_choiceFor hexact opt _ p.asOf

theorem pending_eq (hexact : py.round = id) {pantry : PantryCalculator} {name unit : String} :
    (pantry.pending py name needed unit).2 = max (needed - pantry.available py name unit) 0 := by
  simp only [PantryCalculator.pending, py.sub_exact hexact]
  rcases le_total needed (pantry.available py name unit) with h | h
  · rw [min_eq_left h, sub_self, if_neg (lt_irrefl _), max_eq_right (by linarith)]
  · rw [min_eq_right h, if_neg (by linarith), max_eq_left (by linarith)]

theorem total_eq (hexact : py.round = id) :
    total py p meals key = (((contributions py p meals).filter (·.2.key = key)).map (·.2.quantity)).sum := by
  rw [total, List.sum_eq_foldl, List.foldl_map]
  simp only [py.add_exact hexact]

theorem total_append (hexact : py.round = id) :
    total py p (meals ++ meals') key = total py p meals key + total py p meals' key := by
  rw [total_eq hexact, total_eq hexact, total_eq hexact, contributions, List.flatMap_append, List.filter_append, List.map_append,
    List.sum_append]
  rfl

theorem total_nonneg (hexact : py.round = id) (hf : p.factors.NonNegative)
    (hq : ∀ m ∈ meals, ∀ ing ∈ m.recipe.ingredients, 0 ≤ ing.quantity) : 0 ≤ total py p meals key := by
  rw [total_eq hexact]
  refine List.sum_nonneg fun q h => ?_
  obtain ⟨c, hc, rfl⟩ := List.mem_map.mp h
  obtain ⟨meal, hmeal, hc⟩ := List.mem_flatMap.mp (List.mem_filter.mp hc).1
  obtain ⟨ing, hing, rfl⟩ := List.mem_map.mp hc
  exact contribution_nonneg hexact hf (hq meal hmeal ing hing)

theorem matched_of_reached {product : CatalogProductDTO} (h : line ∈ reached py p meal key) (hproduct : line.product = some product) :
    ∃ ing, p.matcher.matchIngredient ing = some product := by
  obtain ⟨ing, -, -, rfl⟩ := mem_reached h
  rcases contribution_cases py p meal ing with ⟨bought, hbuys, -, hmatch⟩ | ⟨-, -, hmatch⟩
  · rw [hmatch] at hproduct
    obtain rfl := Option.some.inj hproduct
    exact ⟨ing, hbuys.1⟩
  · rw [hmatch] at hproduct
    cases hproduct

theorem paid_nonneg (hexact : py.round = id) (hp : p.NonNegative) : 0 ≤ paid py p meals key := by
  unfold paid
  cases hline : lineAt py p meals key with
  | none => exact le_rfl
  | some l =>
    obtain ⟨meal, -, line, hreached, rfl⟩ := exists_reached hline
    rw [Option.map_some, Option.getD_some, boughtLine_subtotal hexact]
    cases hproduct : line.product with
    | none => exact le_rfl
    | some product =>
      obtain ⟨ing, hing⟩ := matched_of_reached hreached hproduct
      exact costFor_nonneg (hp.prices ing product hing)

theorem paid_append (hexact : py.round = id) (hp : p.NonNegative)
    (hsteady : ∀ ing product, p.matcher.matchIngredient ing = some product → p.Steady product)
    (hq : ∀ m ∈ meals ++ meals', ∀ ing ∈ m.recipe.ingredients, 0 ≤ ing.quantity) :
    paid py p meals key ≤ paid py p (meals ++ meals') key := by
  cases hfirst : meals.findSome? (reached py p · key) with
  | none =>
    have hnone : paid py p meals key = 0 := by rw [paid, lineAt, hfirst]; rfl
    rw [hnone]
    exact paid_nonneg hexact hp
  | some line =>
    have hfirst' : (meals ++ meals').findSome? (reached py p · key) = some line := by
      rw [List.findSome?_append, hfirst, Option.some_or]
    have hneeded : total py p meals key ≤ total py p (meals ++ meals') key := by
      rw [total_append hexact]
      have := @total_nonneg py p meals' key hexact hp.factors fun m hm => hq m (List.mem_append_right _ hm)
      linarith
    rw [paid, paid, lineAt, lineAt, hfirst, hfirst', Option.map_some, Option.map_some, Option.map_some, Option.map_some,
      Option.getD_some, Option.getD_some, boughtLine_subtotal hexact, boughtLine_subtotal hexact, pending_eq hexact, pending_eq hexact]
    cases hproduct : line.product with
    | none => rw [Option.map_none, Option.map_none]
    | some product =>
      obtain ⟨meal, -, hreached⟩ := List.exists_of_findSome?_eq_some hfirst
      obtain ⟨ing, hing⟩ := matched_of_reached hreached hproduct
      rw [Option.map_some, Option.map_some, Option.getD_some, Option.getD_some]
      exact costFor_mono_iff.mp (hsteady ing product hing) _ _ (le_max_right _ _) (max_le_max_right 0 (sub_le_sub_right hneeded _))

theorem costTotal_eq_paid (hexact : py.round = id) {S : Finset LineKey} (hS : ∀ key ∈ keysOf py p meals, key ∈ S) :
    (provision py p meals).costTotal py = ∑ key ∈ S, paid py p meals key := by
  have hsum : ∀ keys : List LineKey,
      ((keys.filterMap (lineAt py p meals)).map (·.subtotal)).sum = (keys.map (paid py p meals)).sum := by
    intro keys
    induction keys with
    | nil => rfl
    | cons key keys ih =>
      rw [List.filterMap_cons, List.map_cons, List.sum_cons, ← ih, paid]
      cases lineAt py p meals key with
      | none => simp
      | some l => simp
  have hnodup : (keysOf py p meals).Nodup := (List.perm_insertionSort _ _).nodup_iff.mpr (demandOf py p meals).demand.nodup
  rw [costTotal_eq_sum hexact, groceryLines_eq, hsum, ← List.sum_toFinset _ hnodup]
  refine Finset.sum_subset (fun key hkey => hS key (List.mem_toFinset.mp hkey)) fun key _ hkey => ?_
  have hnone : lineAt py p meals key = none :=
    Option.eq_none_iff_forall_ne_some.mpr fun l hl => hkey (List.mem_toFinset.mpr (mem_keysOf_of_lineAt hl))
  rw [paid, hnone]
  rfl

theorem costTotal_append (hexact : py.round = id) (hp : p.NonNegative)
    (hsteady : ∀ ing product, p.matcher.matchIngredient ing = some product → p.Steady product)
    (hq : ∀ m ∈ meals ++ meals', ∀ ing ∈ m.recipe.ingredients, 0 ≤ ing.quantity) :
    (provision py p meals).costTotal py ≤ (provision py p (meals ++ meals')).costTotal py := by
  rw [costTotal_eq_paid hexact (S := (keysOf py p meals).toFinset ∪ (keysOf py p (meals ++ meals')).toFinset)
      fun key hkey => Finset.mem_union_left _ (List.mem_toFinset.mpr hkey),
    costTotal_eq_paid hexact (S := (keysOf py p meals).toFinset ∪ (keysOf py p (meals ++ meals')).toFinset)
      fun key hkey => Finset.mem_union_right _ (List.mem_toFinset.mpr hkey)]
  exact Finset.sum_le_sum fun key _ => paid_append hexact hp hsteady hq

end Lines

/-! ### A product that is asked for -/

/-- A meal that asks for so much of an ingredient, in the unit in which its product is counted. -/
def portion (product : CatalogProductDTO) (ing : RecipeIngredientDTO) (quantity : ℚ) : RecipeIngredientDTO :=
  { ing with quantity := quantity, unit := targetUnit product ing.unit }

def asking (product : CatalogProductDTO) (ing : RecipeIngredientDTO) (quantity : ℚ) : MealAssignment where
  slotIndex := 0
  date := 739817
  mealType := .lunch
  recipe := { recipeId := "r1", title := ing.displayName, ingredients := [portion product ing quantity] }
  servings := 1
  participants := []

section Asking
variable {py : Runtime} {p : Provisioner} {product : CatalogProductDTO} {ing : RecipeIngredientDTO} {quantity : ℚ}

theorem targetUnit_twice : targetUnit product (targetUnit product ing.unit) = targetUnit product ing.unit := by
  unfold targetUnit
  split <;> rfl

theorem contribution_asking (hexact : py.round = id) (hmatch : p.matcher.matchIngredient ing = some product) :
    contribution py p (asking product ing quantity) (portion product ing quantity) =
      { key := .product product.productId, line := matchLine (portion product ing quantity) (some product), quantity := quantity,
        failed := none } := by
  have hmatch' : p.matcher.matchIngredient (portion product ing quantity) = some product := hmatch
  have hraw : py.mul (portion product ing quantity).quantity
      (py.div (asking product ing quantity).servings (asking product ing quantity).recipe.servings) = quantity := by
    rw [py.mul_exact hexact, py.div_exact hexact]
    simp [asking, portion]
  have hunit : (portion product ing quantity).unit = (matchLine (portion product ing quantity) (some product)).targetUnit :=
    targetUnit_twice.symm
  have hconvert : ∀ q, convert py p.factors q (portion product ing quantity).unit
      (matchLine (portion product ing quantity) (some product)).targetUnit
      (some (portion product ing quantity).canonicalName) = .ok q :=
    fun q => by simp only [convert, hunit, convertWithin, if_true]
  simp only [contribution, hmatch', hraw, hconvert]
  rfl

theorem costTotal_asking (hexact : py.round = id) (hmatch : p.matcher.matchIngredient ing = some product) (quantities : List ℚ) :
    (provision py p ((quantity :: quantities).map (asking product ing))).costTotal py =
      p.costFor product
        (max ((quantity :: quantities).sum - p.pantry.available py ing.canonicalName (targetUnit product ing.unit)) 0) := by
  have hcontributions : contributions py p ((quantity :: quantities).map (asking product ing)) = (quantity :: quantities).map fun q =>
      (0, { key := .product product.productId, line := matchLine (portion product ing q) (some product), quantity := q,
            failed := none }) := by
    rw [contributions, List.flatMap_map]
    simp only [asking, List.map_cons, List.map_nil]
    rw [← List.map_eq_flatMap]
    exact List.map_congr_left fun q _ => congrArg (Prod.mk 0) (contribution_asking hexact hmatch)
  have hkeys : ∀ key ∈ keysOf py p ((quantity :: quantities).map (asking product ing)),
      key ∈ ({.product product.productId} : Finset LineKey) := by
    intro key hkey
    obtain ⟨c, hc, rfl⟩ := ((demandOf_collects py p _).keys key).mp ((List.mem_insertionSort _).mp hkey)
    rw [hcontributions] at hc
    obtain ⟨q, -, rfl⟩ := List.mem_map.mp hc
    exact Finset.mem_singleton_self _
  have htotal : total py p ((quantity :: quantities).map (asking product ing)) (.product product.productId) =
      (quantity :: quantities).sum := by
    rw [total_eq hexact, hcontributions, List.filter_eq_self.mpr, List.map_map]
    · exact congrArg List.sum (List.map_id _)
    · intro c hc
      obtain ⟨q, -, rfl⟩ := List.mem_map.mp hc
      exact decide_eq_true rfl
  have hreached : reached py p (asking product ing quantity) (.product product.productId) =
      some (matchLine (portion product ing quantity) (some product)) := by
    have hfind : ([contribution py p (asking product ing quantity) (portion product ing quantity)].find?
        (·.key = .product product.productId)).map (·.line) = some (matchLine (portion product ing quantity) (some product)) := by
      rw [contribution_asking hexact hmatch]
      simp
    exact hfind
  rw [costTotal_eq_paid hexact hkeys, Finset.sum_singleton, paid, lineAt, List.map_cons, List.findSome?_cons, hreached, ← List.map_cons,
    htotal, Option.map_some, Option.map_some, Option.getD_some, boughtLine_subtotal hexact, pending_eq hexact]
  show p.costFor product (max (_ - p.pantry.available py ing.canonicalName (targetUnit product (targetUnit product ing.unit))) 0) = _
  rw [targetUnit_twice]

end Asking

def grain (packages : List PackageOptionDTO) : CatalogProductDTO :=
  { productId := "p1", canonicalName := "arroz", displayName := "Arroz", packages := packages }

def grainShop (packages : List PackageOptionDTO) : Provisioner where
  matcher := productMatcher [grain packages] Dict.empty
  pantry := pantryCalculator [] Dict.empty none
  weights := {}
  factors := Dict.empty
  asOf := none

def bag (quantity amount : ℚ) : PackageOptionDTO :=
  { productId := "p1", packageQuantity := quantity, packageUnit := "g", amount := amount }

theorem matchIngredient_grain {packages : List PackageOptionDTO} {ing : RecipeIngredientDTO} {product : CatalogProductDTO}
    (h : (grainShop packages).matcher.matchIngredient ing = some product) : product = grain packages := by
  simp only [ProductMatcher.matchIngredient, ProductMatcher.resolve] at h
  split at h
  · next direct hdirect =>
    obtain rfl := Option.some.inj h
    exact List.mem_singleton.mp (productMatcher_mem hdirect)
  · obtain ⟨group, -, hgroup⟩ := Option.bind_eq_some_iff.mp h
    obtain ⟨name, hname, -⟩ := List.exists_of_findSome?_eq_some hgroup
    cases hname

theorem nonNegative_grainShop {packages : List PackageOptionDTO} (h : ∀ opt ∈ packages, 0 ≤ opt.amount) :
    (grainShop packages).NonNegative where
  factors := fun k f hf => by cases hf
  pantryFactors := fun k f hf => by cases hf
  stock := fun item hitem => by cases hitem
  prices := fun ing product hmatch => by
    rw [matchIngredient_grain hmatch]
    exact h

def rice : RecipeIngredientDTO := { canonicalName := "arroz", displayName := "Arroz", quantity := 0, unit := "g" }

end Provisioner
end CestaPlan.Engine
