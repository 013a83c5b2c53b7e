import CestaPlan.Engine.Provisioning

/-! The lines of a provision: one for each thing that the meals contribute to. -/

namespace CestaPlan.Engine

def LineKey.productId? : LineKey → Option String
  | .ingredient _ => none
  | .product productId => some productId

theorem LineKey.productId?_eq_some_iff {key : LineKey} {productId : String} :
    key.productId? = some productId ↔ key = .product productId := by
  cases key with
  | ingredient name => simp [LineKey.productId?]
  | product id => simp [LineKey.productId?]

/-- The ingredient of the meal is bought as the product: it is the one that is matched, and the unit converts. -/
def Buys (py : Runtime) (p : Provisioner) (meal : MealAssignment) (ing : RecipeIngredientDTO)
    (product : CatalogProductDTO) : Prop :=
  p.matcher.matchIngredient ing = some product ∧
    ∃ qty, convert py p.factors (py.mul ing.quantity (py.div meal.servings meal.recipe.servings)) ing.unit
      (targetUnit product ing.unit) (some ing.canonicalName) = .ok qty

namespace Provisioner

/-! ### Contributions -/

section Contributions
variable (py : Runtime) (p : Provisioner) (meal : MealAssignment) (ing : RecipeIngredientDTO)

theorem contribution_cases :
    (∃ product, Buys py p meal ing product ∧ (contribution py p meal ing).key = .product product.productId ∧
      (contribution py p meal ing).line = matchLine ing (some product)) ∨
    ((∀ product, ¬Buys py p meal ing product) ∧ (contribution py p meal ing).key = .ingredient ing.canonicalName ∧
      (contribution py p meal ing).line = priceless ing) := by
  cases hm : p.matcher.matchIngredient ing with
  | none =>
    refine .inr ⟨fun product h => absurd (hm.symm.trans h.1) (by simp), ?_⟩
    simp only [contribution, hm]
    split
    · exact ⟨rfl, rfl⟩
    · exact ⟨rfl, rfl⟩
  | some product =>
    cases hc : convert py p.factors (py.mul ing.quantity (py.div meal.servings meal.recipe.servings)) ing.unit
        (targetUnit product ing.unit) (some ing.canonicalName) with
    | ok qty =>
      refine .inl ⟨product, ⟨hm, qty, hc⟩, ?_⟩
      simp only [contribution, hm, matchLine, hc, matchKey, and_self]
    | error e =>
      refine .inr ⟨?_, ?_⟩
      · rintro product' ⟨hm', qty, hq⟩
        obtain rfl := Option.some.inj (hm.symm.trans hm')
        exact absurd (hc.symm.trans hq) (by simp)
      · simp only [contribution, hm, matchLine, hc, and_self]

theorem contribution_productId :
    (contribution py p meal ing).line.product.map (·.productId) = (contribution py p meal ing).key.productId? := by
  rcases contribution_cases py p meal ing with ⟨product, -, hkey, hline⟩ | ⟨-, hkey, hline⟩
  · rw [hkey, hline]
    rfl
  · rw [hkey, hline]
    rfl

theorem contribution_key_iff {productId : String} : (contribution py p meal ing).key = .product productId ↔
    ∃ product, Buys py p meal ing product ∧ product.productId = productId := by
  rcases contribution_cases py p meal ing with
    ⟨product, hbuys, hkey, -⟩ | ⟨hno, hkey, -⟩
  · rw [hkey, LineKey.product.injEq]
    refine ⟨fun h => ⟨product, hbuys, h⟩, ?_⟩
    rintro ⟨product', hbuys', rfl⟩
    exact congrArg _ (Option.some.inj (hbuys.1.symm.trans hbuys'.1))
  · rw [hkey]
    simp [hno]

end Contributions

/-! ### The demand -/

section Demands
variable {py : Runtime} {p : Provisioner}

/-- The demand has the keys of the contributions, each with the line of one of them. -/
structure Demand.Collects (d : Demand) (cs : List (ℕ × Contribution)) : Prop where
  keys : ∀ key, key ∈ d.demand.keys ↔ ∃ c ∈ cs, c.2.key = key
  lines : ∀ key ∈ d.demand.keys, ∃ c ∈ cs, c.2.key = key ∧ d.lineMeta.get? key = some c.2.line
  fresh : ∀ key line, d.lineMeta.get? key = some line → key ∈ d.demand.keys

theorem Demand.Collects.add {d : Demand} {cs : List (ℕ × Contribution)} (h : d.Collects cs) (c : ℕ × Contribution) :
    (d.add py c.1 c.2).Collects (cs ++ [c]) where
  keys key := by
    rw [Demand.add, Dict.mem_keys_set, h.keys, or_comm]
    simp [or_and_right, exists_or, eq_comm]
  lines key hkey := by
    simp only [Demand.add, Dict.get?_setDefault]
    rcases Dict.mem_keys_set.mp hkey with rfl | hold
    · rw [if_pos rfl, Dict.getD]
      cases hl : d.lineMeta.get? c.2.key with
      | none => exact ⟨c, by simp, rfl, rfl⟩
      | some line =>
        -- The first contribution to a key gives its line.
        obtain ⟨c', hc', hk, hget⟩ := h.lines _ (h.fresh _ _ hl)
        exact ⟨c', List.mem_append_left _ hc', hk, hl ▸ hget⟩
    · obtain ⟨c', hc', hk, hget⟩ := h.lines key hold
      refine ⟨c', List.mem_append_left _ hc', hk, ?_⟩
      split
      · next heq => rw [← heq, Dict.getD, hget, Option.getD_some]
      · exact hget
  fresh key line hget := by
    simp only [Demand.add, Dict.get?_setDefault] at hget
    refine Dict.mem_keys_set.mpr ?_
    by_cases heq : key = c.2.key
    · exact .inl heq
    · rw [if_neg heq] at hget
      exact .inr (h.fresh key line hget)

theorem demandOf_collects (py : Runtime) (p : Provisioner) (meals : List MealAssignment) :
    (demandOf py p meals).Collects (contributions py p meals) := by
  unfold demandOf
  induction contributions py p meals using List.reverseRecOn with
  | nil => exact ⟨by simp [Dict.keys, Dict.empty], by simp [Dict.keys, Dict.empty], by simp⟩
  | append_singleton cs c ih =>
    rw [List.foldl_append]
    exact ih.add c

end Demands

/-! ### The lines -/

section Lines
variable {py : Runtime} {p : Provisioner} {meals : List MealAssignment}

theorem addLine_productId {d : Demand} {prov : Provision} {key : LineKey} {line : LineMeta}
    (h : d.lineMeta.get? key = some line) : (addLine py p meals d prov key).groceryLines.map (·.productId) =
      prov.groceryLines.map (·.productId) ++ [line.product.map (·.productId)] := by
  simp only [addLine, h]
  cases hp : line.product.filter (·.packages ≠ []) with
  | none => simp [unpricedLine]
  | some product =>
    have hline : line.product = some product := (Option.filter_eq_some_iff.mp hp).1
    cases hc : choosePackage py (p.pantry.pending py line.canonicalName (d.demand.getD key 0) line.targetUnit).2
        product.packages p.asOf p.weights.waste p.weights.cost with
    | none => simp [hc, unpricedLine]
    | some choice => simp [hc, pricedLine, hline]

theorem foldl_addLine_productId {d : Demand} (hd : d.Collects (contributions py p meals)) (keys : List LineKey)
    (hkeys : ∀ key ∈ keys, key ∈ d.demand.keys) (prov : Provision) :
    (keys.foldl (addLine py p meals d) prov).groceryLines.map (·.productId) =
      prov.groceryLines.map (·.productId) ++ keys.map LineKey.productId? := by
  induction keys generalizing prov with
  | nil => simp
  | cons key rest ih =>
    obtain ⟨c, hc, hkey, hline⟩ := hd.lines key (hkeys key List.mem_cons_self)
    obtain ⟨meal, -, hc⟩ := List.mem_flatMap.mp hc
    obtain ⟨ing, -, rfl⟩ := List.mem_map.mp hc
    rw [List.foldl_cons, ih (fun key hk => hkeys key (List.mem_cons_of_mem _ hk)), addLine_productId hline,
      contribution_productId, hkey, List.append_assoc]
    rfl

theorem exists_line_iff {productId : String} :
    (∃ line ∈ (provision py p meals).groceryLines, line.productId = some productId) ↔
      ∃ meal ∈ meals, ∃ ing ∈ meal.recipe.ingredients, ∃ product, Buys py p meal ing product ∧
        product.productId = productId := by
  have hd := demandOf_collects py p meals
  have hkeys : ∀ key ∈ (demandOf py p meals).demand.keys.insertionSort LineKey.upTo,
      key ∈ (demandOf py p meals).demand.keys :=
    fun key hk => (List.mem_insertionSort _).mp hk
  rw [← List.mem_map, provision, foldl_addLine_productId hd _ hkeys]
  simp only [List.map_nil, List.nil_append, List.mem_map, List.mem_insertionSort, LineKey.productId?_eq_some_iff,
    exists_eq_right, hd.keys, contributions, List.mem_flatMap, ← contribution_key_iff]
  constructor
  · rintro ⟨-, ⟨meal, hmeal, ing, hing, rfl⟩, hkey⟩
    exact ⟨meal, hmeal, ing, hing, hkey⟩
  · rintro ⟨meal, hmeal, ing, hing, hkey⟩
    exact ⟨_, ⟨meal, hmeal, ing, hing, rfl⟩, hkey⟩

theorem matched_of_lineMeta {key : LineKey} {line : LineMeta} {product : CatalogProductDTO}
    (hline : (demandOf py p meals).lineMeta.get? key = some line) (hproduct : line.product = some product) :
    ∃ ing, p.matcher.matchIngredient ing = some product := by
  have hcollects := demandOf_collects py p meals
  obtain ⟨c, hc, -, hget⟩ := hcollects.lines key (hcollects.fresh key line hline)
  obtain rfl := Option.some.inj (hline.symm.trans hget)
  obtain ⟨meal, -, hc⟩ := List.mem_flatMap.mp hc
  obtain ⟨ing, -, rfl⟩ := List.mem_map.mp hc
  rcases contribution_cases py p meal ing with ⟨bought, hbuys, -, hmatch⟩ | ⟨-, -, hmatch⟩
  · rw [hmatch] at hproduct
    obtain rfl := Option.some.inj hproduct
    exact ⟨ing, hbuys.1⟩
  · rw [hmatch] at hproduct
    cases hproduct

theorem addLine_groceryLines (d : Demand) (prov : Provision) (key : LineKey) :
    (addLine py p meals d prov key).groceryLines = prov.groceryLines ++ (addLine py p meals d {} key).groceryLines := by
  unfold addLine
  cases d.lineMeta.get? key with
  | none => simp
  | some lineMeta =>
    cases hproduct : lineMeta.product.filter (·.packages ≠ []) with
    | none => simp only [hproduct, List.nil_append]
    | some product =>
      simp only [hproduct]
      cases choosePackage py (p.pantry.pending py lineMeta.canonicalName (d.demand.getD key 0) lineMeta.targetUnit).2
        product.packages p.asOf p.weights.waste p.weights.cost <;> simp

/-- The line of a key: without a format, or with the one that is chosen for its product. -/
inductive LineOf (py : Runtime) (p : Provisioner) (lineMeta : LineMeta) : GroceryLineDTO → Prop
  | unpriced (needed pantryUsed pending : ℚ) : LineOf py p lineMeta (unpricedLine lineMeta needed pantryUsed pending)
  | priced (product : CatalogProductDTO) (needed pantryUsed pending : ℚ) (choice : PackageChoice)
      (hproduct : lineMeta.product = some product)
      (hchoice : choosePackage py pending product.packages p.asOf p.weights.waste p.weights.cost = some choice) :
      LineOf py p lineMeta (pricedLine lineMeta product needed pantryUsed pending choice)

theorem lineOf_of_addLine {d : Demand} {key : LineKey} {line : GroceryLineDTO}
    (h : line ∈ (addLine py p meals d {} key).groceryLines) :
    ∃ lineMeta, d.lineMeta.get? key = some lineMeta ∧ LineOf py p lineMeta line := by
  unfold addLine at h
  cases hline : d.lineMeta.get? key with
  | none =>
    rw [hline] at h
    cases h
  | some lineMeta =>
    refine ⟨lineMeta, rfl, ?_⟩
    cases hproduct : lineMeta.product.filter (·.packages ≠ []) with
    | none =>
      simp only [hline, hproduct, List.nil_append, List.mem_singleton] at h
      exact h ▸ .unpriced _ _ _
    | some product =>
      have hsome : lineMeta.product = some product := (Option.filter_eq_some_iff.mp hproduct).1
      simp only [hline, hproduct] at h
      split at h
      · simp only [List.nil_append, List.mem_singleton] at h
        exact h ▸ .unpriced _ _ _
      · next choice hchoice =>
        simp only [List.nil_append, List.mem_singleton] at h
        exact h ▸ .priced product _ _ _ choice hsome hchoice

theorem exists_addLine {line : GroceryLineDTO} (h : line ∈ (provision py p meals).groceryLines) :
    ∃ key, line ∈ (addLine py p meals (demandOf py p meals) {} key).groceryLines := by
  simp only [provision] at h
  generalize (demandOf py p meals).demand.keys.insertionSort LineKey.upTo = keys at h
  induction keys using List.reverseRecOn with
  | nil => cases h
  | append_singleton keys key ih =>
    rw [List.foldl_append, List.foldl_cons, List.foldl_nil, addLine_groceryLines] at h
    rcases List.mem_append.mp h with h | h
    · exact ih h
    · exact ⟨key, h⟩

theorem charged_line {line : GroceryLineDTO} (h : line ∈ (provision py p meals).groceryLines)
    (hprice : line.packagePrice ≠ none) :
    ∃ lineMeta product needed pantryUsed pending choice, (∃ ing, p.matcher.matchIngredient ing = some product) ∧
      choosePackage py pending product.packages p.asOf p.weights.waste p.weights.cost = some choice ∧
      line = pricedLine lineMeta product needed pantryUsed pending choice := by
  obtain ⟨key, hadded⟩ := exists_addLine h
  obtain ⟨lineMeta, hline, hof⟩ := lineOf_of_addLine hadded
  cases hof with
  | unpriced => exact absurd rfl hprice
  | priced product needed pantryUsed pending choice hproduct hchoice =>
    exact ⟨lineMeta, product, needed, pantryUsed, pending, choice, matched_of_lineMeta hline hproduct, hchoice, rfl⟩

end Lines
end Provisioner
end CestaPlan.Engine
