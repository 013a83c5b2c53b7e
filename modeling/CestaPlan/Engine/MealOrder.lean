import CestaPlan.Engine.LineFigures

/-! The order of the meals. It decides which ingredient gives a line its name, its product and its unit, and in which order
    the decimals are added. -/

namespace CestaPlan.Engine

/-- The key of a line. -/
def GroceryLineDTO.lineKey (line : GroceryLineDTO) : LineKey :=
  match line.productId with
  | some productId => .product productId
  | none => .ingredient line.canonicalName

structure LineFigures where
  key : LineKey
  needed : ℚ
  pantry : ℚ
  packages : Nat
  subtotal : ℚ
deriving DecidableEq

def GroceryLineDTO.figures (line : GroceryLineDTO) : LineFigures where
  key := line.lineKey
  needed := line.neededQuantity
  pantry := line.pantryQuantity
  packages := line.packagesCount
  subtotal := line.subtotal

namespace Provisioner

section Order
variable (py : Runtime) (p : Provisioner) (meals : List MealAssignment)

/-- Every order of the meals gives the same cost and the same lines. -/
def OrderFree : Prop := ∀ meals', meals'.Perm meals →
  (provision py p meals').costTotal py = (provision py p meals).costTotal py ∧
    ((provision py p meals').groceryLines.map (·.figures)).Perm ((provision py p meals).groceryLines.map (·.figures))

/-- The decimals that the meals add to a line have one sum, whatever the order of the meals. -/
def SumsFree : Prop := ∀ meals', meals'.Perm meals → ∀ key, total py p meals' key = total py p meals key

/-- The ingredients by which two meals reach a line are worth the same to it: under the name, the product and the unit of
    either, the pantry and the packages cover the demand alike. -/
def ReachAlike : Prop := ∀ key, ∀ meal ∈ meals, ∀ meal' ∈ meals, ∀ line ∈ reached py p meal key,
  ∀ line' ∈ reached py p meal' key, (boughtLine py p line (total py p meals key)).figures =
    (boughtLine py p line' (total py p meals key)).figures

/-- What a line is charged, and whether to the known or to the estimated cost. -/
def billing (line : GroceryLineDTO) : Bool × Bool × ℚ := (line.packagePrice.isNone, line.subtotalKnown, line.subtotal)

/-- They are billed alike, too. -/
def BilledAlike : Prop := ∀ key, ∀ meal ∈ meals, ∀ meal' ∈ meals, ∀ line ∈ reached py p meal key,
  ∀ line' ∈ reached py p meal' key, billing (boughtLine py p line (total py p meals key)) =
    billing (boughtLine py p line' (total py p meals key))

/-- The line of a key. -/
def lineAt (key : LineKey) : Option GroceryLineDTO :=
  (meals.findSome? (reached py p · key)).map fun line => boughtLine py p line (total py p meals key)

end Order

section Keys
variable {py : Runtime} {p : Provisioner} {meals meals' : List MealAssignment} {meal : MealAssignment} {key : LineKey}
variable {line : LineMeta}

instance : Std.Total LineKey.upTo := ⟨fun a b => by
  cases a <;> cases b <;> simp [LineKey.upTo, le_total]⟩

instance : IsTrans LineKey LineKey.upTo := ⟨fun a b c hab hbc => by
  cases a <;> cases b <;> cases c <;> simp_all [LineKey.upTo]
  · exact hab.trans hbc
  · exact hab.trans hbc⟩

instance : Std.Antisymm LineKey.upTo := ⟨fun a b hab hba => by
  cases a <;> cases b <;> simp_all [LineKey.upTo]
  · exact le_antisymm hab hba
  · exact le_antisymm hab hba⟩

theorem contributions_perm (h : meals'.Perm meals) : (contributions py p meals').Perm (contributions py p meals) :=
  h.flatMap_right _

theorem keysOf_perm (h : meals'.Perm meals) : keysOf py p meals' = keysOf py p meals := by
  have hmem : ∀ key, key ∈ (demandOf py p meals').demand.keys ↔ key ∈ (demandOf py p meals).demand.keys := fun key => by
    rw [(demandOf_collects py p meals').keys, (demandOf_collects py p meals).keys]
    simp only [(contributions_perm h).mem_iff]
  have hperm := (List.perm_ext_iff_of_nodup (demandOf py p meals').demand.nodup (demandOf py p meals).demand.nodup).mpr hmem
  refine List.Perm.eq_of_pairwise' (List.pairwise_insertionSort _ _) (List.pairwise_insertionSort _ _) ?_
  exact ((List.perm_insertionSort _ _).trans hperm).trans (List.perm_insertionSort _ _).symm

theorem mem_reached (h : line ∈ reached py p meal key) :
    ∃ ing ∈ meal.recipe.ingredients, (contribution py p meal ing).key = key ∧ (contribution py p meal ing).line = line := by
  obtain ⟨c, hc, rfl⟩ := Option.map_eq_some_iff.mp h
  obtain ⟨ing, hing, rfl⟩ := List.mem_map.mp (List.mem_of_find?_eq_some hc)
  exact ⟨ing, hing, by simpa using List.find?_some hc, rfl⟩

theorem total_of_unreached (h : meals.findSome? (reached py p · key) = none) : total py p meals key = 0 := by
  have hnone : (contributions py p meals).filter (·.2.key = key) = [] := by
    refine List.filter_eq_nil_iff.mpr fun c hc hkey => ?_
    obtain ⟨meal, hmeal, hc⟩ := List.mem_flatMap.mp hc
    obtain ⟨ing, hing, rfl⟩ := List.mem_map.mp hc
    have hmiss := List.findSome?_eq_none_iff.mp h meal hmeal
    rw [reached, Option.map_eq_none_iff] at hmiss
    exact List.find?_eq_none.mp hmiss _ (List.mem_map_of_mem hing) hkey
  rw [total, hnone]
  rfl

theorem boughtLine_productId {needed : ℚ} :
    (boughtLine py p line needed).productId = line.product.map (·.productId) := by
  rcases boughtLine_cases py p line needed with ⟨-, hline⟩ | ⟨product, hproduct, ⟨-, hline⟩ | ⟨choice, -, hline⟩⟩
  · rw [hline]
    rfl
  · rw [hline]
    rfl
  · rw [hline, (Option.filter_eq_some_iff.mp hproduct).1]
    rfl

theorem boughtLine_canonicalName {needed : ℚ} : (boughtLine py p line needed).canonicalName = line.canonicalName := by
  rcases boughtLine_cases py p line needed with ⟨-, hline⟩ | ⟨product, -, ⟨-, hline⟩ | ⟨choice, -, hline⟩⟩ <;> rw [hline] <;> rfl

theorem boughtLine_neededQuantity {needed : ℚ} : (boughtLine py p line needed).neededQuantity = needed := by
  rcases boughtLine_cases py p line needed with ⟨-, hline⟩ | ⟨product, -, ⟨-, hline⟩ | ⟨choice, -, hline⟩⟩ <;> rw [hline] <;> rfl

theorem boughtLine_lineKey (h : line ∈ reached py p meal key) {needed : ℚ} : (boughtLine py p line needed).lineKey = key := by
  obtain ⟨ing, -, hkey, hline⟩ := mem_reached h
  rw [GroceryLineDTO.lineKey, boughtLine_productId, boughtLine_canonicalName]
  rcases contribution_cases py p meal ing with ⟨product, -, hkey', hline'⟩ | ⟨-, hkey', hline'⟩
  · rw [← hline, hline', ← hkey, hkey']
    rfl
  · rw [← hline, hline', ← hkey, hkey']
    rfl

theorem exists_reached {l : GroceryLineDTO} (h : lineAt py p meals key = some l) :
    ∃ meal ∈ meals, ∃ line ∈ reached py p meal key, l = boughtLine py p line (total py p meals key) := by
  obtain ⟨line, hline, rfl⟩ := Option.map_eq_some_iff.mp h
  obtain ⟨meal, hmeal, hreached⟩ := List.exists_of_findSome?_eq_some hline
  exact ⟨meal, hmeal, line, hreached, rfl⟩

theorem groceryLines_eq : (provision py p meals).groceryLines = (keysOf py p meals).filterMap (lineAt py p meals) := by
  rw [(provision_lines py p meals).1, linesOf, List.map_filterMap]
  simp only [Option.map_map]
  rfl

theorem mem_keysOf_of_lineAt {l : GroceryLineDTO} (h : lineAt py p meals key = some l) : key ∈ keysOf py p meals := by
  obtain ⟨meal, hmeal, line, hline, -⟩ := exists_reached h
  obtain ⟨ing, hing, hkey, -⟩ := mem_reached hline
  refine (List.mem_insertionSort _).mpr (((demandOf_collects py p meals).keys key).mpr ?_)
  exact ⟨_, List.mem_flatMap.mpr ⟨meal, hmeal, List.mem_map_of_mem hing⟩, hkey⟩

theorem mem_groceryLines {l : GroceryLineDTO} : l ∈ (provision py p meals).groceryLines ↔
    ∃ key, lineAt py p meals key = some l := by
  rw [groceryLines_eq, List.mem_filterMap]
  exact exists_congr fun key => and_iff_right_of_imp mem_keysOf_of_lineAt

end Keys

/-! ### What the order decides -/

section Decides
variable {py : Runtime} {p : Provisioner} {meals meals' : List MealAssignment} {key : LineKey}

theorem lineAt_perm {α : Type} {g : GroceryLineDTO → α} (hsums : SumsFree py p meals) (hperm : meals'.Perm meals)
    (halike : ∀ key, ∀ meal ∈ meals, ∀ meal' ∈ meals, ∀ line ∈ reached py p meal key, ∀ line' ∈ reached py p meal' key,
      g (boughtLine py p line (total py p meals key)) = g (boughtLine py p line' (total py p meals key))) (key : LineKey) :
    (lineAt py p meals' key).map g = (lineAt py p meals key).map g := by
  cases h : meals.findSome? (reached py p · key) with
  | none =>
    have hnone : meals'.findSome? (reached py p · key) = none := List.findSome?_eq_none_iff.mpr fun meal hmeal =>
      List.findSome?_eq_none_iff.mp h meal (hperm.mem_iff.mp hmeal)
    rw [lineAt, lineAt, h, hnone]
    rfl
  | some line =>
    obtain ⟨meal, hmeal, hline⟩ := List.exists_of_findSome?_eq_some h
    cases h' : meals'.findSome? (reached py p · key) with
    | none => exact absurd (hline.symm.trans (List.findSome?_eq_none_iff.mp h' meal (hperm.mem_iff.mpr hmeal))) (by simp)
    | some line' =>
      obtain ⟨meal', hmeal', hline'⟩ := List.exists_of_findSome?_eq_some h'
      rw [lineAt, lineAt, h, h', hsums meals' hperm key]
      exact congrArg some (halike key meal' (hperm.mem_iff.mp hmeal') meal hmeal line' hline' line hline)

theorem map_groceryLines_perm {α : Type} {g : GroceryLineDTO → α} (hsums : SumsFree py p meals) (hperm : meals'.Perm meals)
    (halike : ∀ key, ∀ meal ∈ meals, ∀ meal' ∈ meals, ∀ line ∈ reached py p meal key, ∀ line' ∈ reached py p meal' key,
      g (boughtLine py p line (total py p meals key)) = g (boughtLine py p line' (total py p meals key))) :
    (provision py p meals').groceryLines.map g = (provision py p meals).groceryLines.map g := by
  rw [groceryLines_eq, groceryLines_eq, List.map_filterMap, List.map_filterMap, keysOf_perm hperm]
  congr 1
  funext key
  exact lineAt_perm hsums hperm halike key

theorem OrderFree.figures_eq (h : OrderFree py p meals) (hperm : meals'.Perm meals) {l : GroceryLineDTO}
    (hl : lineAt py p meals' key = some l) : ∃ l₀, lineAt py p meals key = some l₀ ∧ l₀.figures = l.figures := by
  have hmem : l.figures ∈ (provision py p meals').groceryLines.map (·.figures) :=
    List.mem_map_of_mem (mem_groceryLines.mpr ⟨key, hl⟩)
  obtain ⟨l₀, hl₀, hfigures⟩ := List.mem_map.mp ((h meals' hperm).2.mem_iff.mp hmem)
  obtain ⟨key₀, hkey₀⟩ := mem_groceryLines.mp hl₀
  obtain ⟨_, -, line, hline, rfl⟩ := exists_reached hl
  obtain ⟨_, -, line₀, hline₀, rfl⟩ := exists_reached hkey₀
  have hkeys : key₀ = key := by
    have heq := congrArg LineFigures.key hfigures
    simpa only [GroceryLineDTO.figures, boughtLine_lineKey hline, boughtLine_lineKey hline₀] using heq
  exact ⟨_, hkeys ▸ hkey₀, hfigures⟩

theorem OrderFree.sumsFree (h : OrderFree py p meals) : SumsFree py p meals := by
  intro meals' hperm key
  cases hl : lineAt py p meals' key with
  | none =>
    have hnone : meals'.findSome? (reached py p · key) = none := Option.map_eq_none_iff.mp hl
    have hnone' : meals.findSome? (reached py p · key) = none := List.findSome?_eq_none_iff.mpr fun meal hmeal =>
      List.findSome?_eq_none_iff.mp hnone meal (hperm.mem_iff.mpr hmeal)
    rw [total_of_unreached hnone, total_of_unreached hnone']
  | some l =>
    obtain ⟨l₀, hl₀, hfigures⟩ := h.figures_eq hperm hl
    obtain ⟨_, -, line, -, rfl⟩ := exists_reached hl
    obtain ⟨_, -, line₀, -, rfl⟩ := exists_reached hl₀
    have hneeded := congrArg LineFigures.needed hfigures
    simpa only [GroceryLineDTO.figures, boughtLine_neededQuantity] using hneeded.symm

theorem OrderFree.reachAlike (h : OrderFree py p meals) : ReachAlike py p meals := by
  -- The meal that is put first gives the line its ingredient.
  have hfirst : ∀ key, ∀ meal ∈ meals, ∀ line ∈ reached py p meal key, ∀ l₀ ∈ lineAt py p meals key,
      l₀.figures = (boughtLine py p line (total py p meals key)).figures := by
    intro key meal hmeal line hline l₀ hl₀
    have hperm : (meal :: meals.erase meal).Perm meals := (List.perm_cons_erase hmeal).symm
    have hl : lineAt py p (meal :: meals.erase meal) key = some (boughtLine py p line (total py p meals key)) := by
      rw [lineAt, List.findSome?_cons, Option.mem_def.mp hline, h.sumsFree _ hperm]
      rfl
    obtain ⟨l₁, hl₁, hfigures⟩ := h.figures_eq hperm hl
    rw [← hfigures, Option.some.inj (hl₁.symm.trans hl₀)]
  intro key meal hmeal meal' hmeal' line hline line' hline'
  cases hl₀ : lineAt py p meals key with
  | none =>
    have hnone := List.findSome?_eq_none_iff.mp (Option.map_eq_none_iff.mp hl₀) meal hmeal
    exact absurd (Option.mem_def.mp hline) (hnone ▸ by simp)
  | some l₀ => exact (hfirst key meal hmeal line hline l₀ hl₀).symm.trans (hfirst key meal' hmeal' line' hline' l₀ hl₀)

/-! ### The cost -/

theorem foldl_charge_congr {lines lines' : List GroceryLineDTO} (h : lines.map billing = lines'.map billing) (costs : ℚ × ℚ) :
    lines.foldl (charge py) costs = lines'.foldl (charge py) costs := by
  have hbilling : ∀ lines : List GroceryLineDTO, lines.foldl (charge py) costs = (lines.map billing).foldl
      (fun costs b => if b.1 then costs else if b.2.1 then (py.add costs.1 b.2.2, costs.2)
        else (costs.1, py.add costs.2 b.2.2)) costs := fun lines => by
    rw [List.foldl_map]
    rfl
  rw [hbilling, hbilling, h]

theorem subtotal_of_unpriced {line : LineMeta} {needed : ℚ} (h : (boughtLine py p line needed).packagePrice.isNone = true) :
    (boughtLine py p line needed).subtotal = 0 := by
  rcases boughtLine_cases py p line needed with ⟨-, hline⟩ | ⟨product, -, ⟨-, hline⟩ | ⟨choice, -, hline⟩⟩
  · rw [hline]
    rfl
  · rw [hline]
    rfl
  · rw [hline] at h
    cases h

theorem costTotal_eq_sum (hexact : py.round = id) :
    (provision py p meals).costTotal py = ((provision py p meals).groceryLines.map (·.subtotal)).sum := by
  have hsum : ∀ (lines : List GroceryLineDTO) (costs : ℚ × ℚ),
      (∀ l ∈ lines, l.packagePrice.isNone = true → l.subtotal = 0) →
      (lines.foldl (charge py) costs).1 + (lines.foldl (charge py) costs).2 =
        costs.1 + costs.2 + (lines.map (·.subtotal)).sum := by
    intro lines
    induction lines with
    | nil => simp
    | cons l lines ih =>
      intro costs hlines
      rw [List.foldl_cons, ih _ fun l' hl' => hlines l' (List.mem_cons_of_mem _ hl'), List.map_cons, List.sum_cons, charge]
      split
      · next hnone =>
        rw [hlines l List.mem_cons_self hnone]
        ring
      · split <;> simp only [py.add_exact hexact] <;> ring
  have hunpriced : ∀ l ∈ (provision py p meals).groceryLines, l.packagePrice.isNone = true → l.subtotal = 0 := by
    intro l hl hnone
    obtain ⟨key, hkey⟩ := mem_groceryLines.mp hl
    obtain ⟨_, -, line, -, rfl⟩ := exists_reached hkey
    exact subtotal_of_unpriced hnone
  have hcosts := (provision_lines py p meals).2
  rw [← (provision_lines py p meals).1] at hcosts
  obtain ⟨hknown, hestimated⟩ := Prod.mk.inj hcosts
  rw [Provision.costTotal, py.add_exact hexact, hknown, hestimated, hsum _ _ hunpriced]
  simp

theorem costTotal_perm (hsums : SumsFree py p meals) (halike : ReachAlike py p meals)
    (hbilled : py.round = id ∨ BilledAlike py p meals) (hperm : meals'.Perm meals) :
    (provision py p meals').costTotal py = (provision py p meals).costTotal py := by
  rcases hbilled with hexact | hbilled
  · rw [costTotal_eq_sum hexact, costTotal_eq_sum hexact]
    have hfigures := congrArg (List.map LineFigures.subtotal) (map_groceryLines_perm hsums hperm halike)
    rw [List.map_map, List.map_map] at hfigures
    exact congrArg List.sum hfigures
  · have hcosts := (provision_lines py p meals).2
    have hcosts' := (provision_lines py p meals').2
    rw [← (provision_lines py p meals).1] at hcosts
    rw [← (provision_lines py p meals').1, foldl_charge_congr (map_groceryLines_perm hsums hperm hbilled), ← hcosts] at hcosts'
    obtain ⟨hknown, hestimated⟩ := Prod.mk.inj hcosts'
    rw [Provision.costTotal, Provision.costTotal, hknown, hestimated]

end Decides

/-- Ingredients that are bought as one product have one name and one entry of the catalogue. -/
def OneName (p : Provisioner) (meals : List MealAssignment) : Prop :=
  ∀ meal ∈ meals, ∀ ing ∈ meal.recipe.ingredients, ∀ meal' ∈ meals, ∀ ing' ∈ meal'.recipe.ingredients,
    ∀ product ∈ p.matcher.matchIngredient ing, ∀ product' ∈ p.matcher.matchIngredient ing',
      product.productId = product'.productId → ing.canonicalName = ing'.canonicalName ∧ product = product'

instance (p : Provisioner) (meals : List MealAssignment) : Decidable (OneName p meals) := by
  unfold OneName
  infer_instance

section OneName
variable {py : Runtime} {p : Provisioner} {meals : List MealAssignment}

theorem sumsFree_of_exact (hexact : py.round = id) : SumsFree py p meals := by
  intro meals' hperm key
  have hsum : ∀ meals, total py p meals key =
      (((contributions py p meals).filter (·.2.key = key)).map (·.2.quantity)).sum := by
    intro meals
    have hfold : ∀ (cs : List (ℕ × Contribution)) (start : ℚ),
        cs.foldl (fun needed c => py.add needed c.2.quantity) start = start + (cs.map (·.2.quantity)).sum := by
      intro cs
      induction cs with
      | nil => simp
      | cons c cs ih =>
        intro start
        rw [List.foldl_cons, ih, py.add_exact hexact, List.map_cons, List.sum_cons, add_assoc]
    rw [total, hfold, zero_add]
  rw [hsum, hsum]
  exact (((contributions_perm hperm).filter _).map _).sum_eq

theorem boughtLine_figures_congr {line line' : LineMeta} (hname : line.canonicalName = line'.canonicalName)
    (hproduct : line.product = line'.product)
    (hunit : ∀ product ∈ line.product, product.packages ≠ [] → line.targetUnit = line'.targetUnit) (needed : ℚ) :
    (boughtLine py p line needed).figures = (boughtLine py p line' needed).figures := by
  unfold boughtLine
  rw [← hproduct, ← hname]
  cases hpriced : line.product.filter (·.packages ≠ []) with
  | none => simp [unpricedLine, GroceryLineDTO.figures, GroceryLineDTO.lineKey, hproduct, hname]
  | some product =>
    obtain ⟨hline, hpackages⟩ := Option.filter_eq_some_iff.mp hpriced
    simp only
    rw [← hunit product hline (of_decide_eq_true hpackages)]
    split
    · simp [unpricedLine, GroceryLineDTO.figures, GroceryLineDTO.lineKey, hproduct, hname]
    · simp [pricedLine, GroceryLineDTO.figures, GroceryLineDTO.lineKey]

theorem targetUnit_of_packages {product : CatalogProductDTO} (h : product.packages ≠ []) (unit unit' : String) :
    targetUnit product unit = targetUnit product unit' := by
  unfold targetUnit
  split
  · next hnil => exact absurd hnil h
  · rfl

theorem reachAlike_of_oneName (h : OneName p meals) : ReachAlike py p meals := by
  intro key meal hmeal meal' hmeal' line hline line' hline'
  obtain ⟨ing, hing, hkey, rfl⟩ := mem_reached hline
  obtain ⟨ing', hing', hkey', rfl⟩ := mem_reached hline'
  rcases contribution_cases py p meal ing with ⟨product, hbuys, hk, hl⟩ | ⟨-, hk, hl⟩
  · rcases contribution_cases py p meal' ing' with ⟨product', hbuys', hk', hl'⟩ | ⟨-, hk', -⟩
    · have hid : product.productId = product'.productId :=
        LineKey.product.inj ((hk.symm.trans hkey).trans (hkey'.symm.trans hk'))
      obtain ⟨hname, rfl⟩ := h meal hmeal ing hing meal' hmeal' ing' hing' product hbuys.1 product' hbuys'.1 hid
      rw [hl, hl']
      refine boughtLine_figures_congr ?_ ?_ (fun product'' hsome hpackages => ?_) _
      · exact hname
      · rfl
      · rw [← Option.some.inj hsome] at hpackages
        exact targetUnit_of_packages hpackages _ _
    · exact LineKey.noConfusion ((hk.symm.trans hkey).trans (hkey'.symm.trans hk'))
  · rcases contribution_cases py p meal' ing' with ⟨product', -, hk', -⟩ | ⟨-, hk', hl'⟩
    · exact LineKey.noConfusion ((hk.symm.trans hkey).trans (hkey'.symm.trans hk'))
    · have hname : ing.canonicalName = ing'.canonicalName :=
        LineKey.ingredient.inj ((hk.symm.trans hkey).trans (hkey'.symm.trans hk'))
      rw [hl, hl']
      refine boughtLine_figures_congr ?_ ?_ (fun product hsome _ => ?_) _
      · exact hname
      · rfl
      · exact absurd hsome (Option.not_mem_none product)

end OneName

/-! ### Milk and a drink that it stands in for -/

def milkBottle : CatalogProductDTO where
  productId := "p1"
  canonicalName := "leche"
  displayName := "Leche"
  packages := [{ productId := "p1", packageQuantity := 1000, packageUnit := "ml", amount := 1 }]

/-- A litre of milk is at home. -/
def milkAtHome : Provisioner where
  matcher := productMatcher [milkBottle] (Dict.empty.set "bebidas" ["leche"])
  pantry := pantryCalculator [{ canonicalName := "leche", quantity := 1000, unit := "ml" }] Dict.empty none
  weights := {}
  factors := Dict.empty
  asOf := none

def drink (slotIndex : Nat) (name : String) : MealAssignment where
  slotIndex := slotIndex
  date := 739000
  mealType := .snack
  recipe :=
    { recipeId := name, title := name
      ingredients :=
        [{ canonicalName := name, displayName := name, quantity := 500, unit := "ml", substitutionGroup := some "bebidas" }] }
  servings := 1
  participants := []

end Provisioner
end CestaPlan.Engine
