import CestaPlan.Catalog.PlanCatalog
import CestaPlan.Engine.Totals
import Mathlib

/-! The price that a grocery line keeps is the latest one of the product that its catalogue entry goes under, whichever
    product of the entry the charged format is of. -/

namespace CestaPlan.Catalog
open Engine Updates

/-! ### The tables -/

section Tables
variable {settings : Settings} {shop : Shop} {latest : Dict Nat ProductPrice} {rows : List (Ingredient × Product)}

theorem firstPerProduct_mem {prices : List ProductPrice} {productId : Nat} {price : ProductPrice}
    (h : (firstPerProduct prices).get? productId = some price) : price ∈ prices ∧ price.productId = productId := by
  rw [firstPerProduct, Dict.get?_foldl_setDefault, Dict.get?_empty, Option.none_or] at h
  obtain ⟨p, hp, rfl⟩ := Option.map_eq_some_iff.mp h
  exact ⟨(List.mem_insertionSort _).mp (List.mem_of_find?_eq_some hp), by simpa using List.find?_some hp⟩

theorem latestPrices_mem {retailerId : Option Nat} {productId : Nat} {price : ProductPrice}
    (h : (latestPrices settings shop retailerId).get? productId = some price) :
    price ∈ shop.prices ∧ price.productId = productId := by
  cases retailerId with
  | none => cases h
  | some retailerId =>
    obtain ⟨hmem, hid⟩ := firstPerProduct_mem h
    exact ⟨(List.mem_filter.mp hmem).1, hid⟩

/-- The price of the product of a row, where the row is of this product. -/
def productPriceOf (latest : Dict Nat ProductPrice) (productId : Nat) (row : Ingredient × Product) :
    Option ProductPrice :=
  (latest.get? row.2.id).filter fun _ => row.2.id = productId

/-- The price of the product of a row, where it is for this format of the ingredient. -/
def formatPriceOf (latest : Dict Nat ProductPrice) (name unit : String) (quantity : ℚ) (row : Ingredient × Product) :
    Option ProductPrice :=
  (latest.get? row.2.id).filter fun price =>
    row.1.canonicalName = name && price.packageUnit = unit && price.packageQuantity = quantity

theorem add_byProduct (resolver : LineResolver) (row : Ingredient × Product) (productId : Nat) :
    (resolver.add latest row).byProduct.get? productId =
      (resolver.byProduct.get? productId).or ((productPriceOf latest productId row).map (provenanceOf row.2)) := by
  unfold LineResolver.add productPriceOf
  cases hprice : latest.get? row.2.id with
  | none => simp
  | some price =>
    by_cases hid : row.2.id = productId
    · subst hid
      cases hget : resolver.byProduct.get? row.2.id with
      | none => simp [Dict.get?_setDefault, Dict.getD, hget]
      | some first => simp [Dict.get?_setDefault, Dict.getD, hget]
    · simp [Dict.get?_setDefault, hid, Ne.symm hid]

theorem add_byPackage (resolver : LineResolver) (row : Ingredient × Product) (name unit : String) (quantity : ℚ) :
    (resolver.add latest row).byPackage.get? (name, unit, quantity) =
      (resolver.byPackage.get? (name, unit, quantity)).or
        ((formatPriceOf latest name unit quantity row).map (provenanceOf row.2)) := by
  unfold LineResolver.add formatPriceOf
  cases hprice : latest.get? row.2.id with
  | none => simp
  | some price =>
    by_cases hformat : row.1.canonicalName = name ∧ price.packageUnit = unit ∧ price.packageQuantity = quantity
    · obtain ⟨rfl, rfl, rfl⟩ := hformat
      cases hget : resolver.byPackage.get? (row.1.canonicalName, price.packageUnit, price.packageQuantity) with
      | none => simp [Dict.get?_setDefault, Dict.getD, hget]
      | some first => simp [Dict.get?_setDefault, Dict.getD, hget]
    · have hkey : ¬(name, unit, quantity) = (row.1.canonicalName, price.packageUnit, price.packageQuantity) := by
        grind
      have hno : (decide (row.1.canonicalName = name) && decide (price.packageUnit = unit) &&
          decide (price.packageQuantity = quantity)) = false := by
        grind
      rw [Dict.get?_setDefault, if_neg hkey, Option.filter_some, hno]
      simp

theorem byProduct_get? (productId : Nat) : (rows.foldl (LineResolver.add latest) {}).byProduct.get? productId =
    rows.findSome? fun row => (productPriceOf latest productId row).map (provenanceOf row.2) := by
  induction rows using List.reverseRecOn with
  | nil => rfl
  | append_singleton rows row ih =>
    rw [List.foldl_append, List.foldl_cons, List.foldl_nil, add_byProduct, List.findSome?_append, ih]
    simp

theorem byPackage_get? (name unit : String) (quantity : ℚ) :
    (rows.foldl (LineResolver.add latest) {}).byPackage.get? (name, unit, quantity) =
      rows.findSome? fun row => (formatPriceOf latest name unit quantity row).map (provenanceOf row.2) := by
  induction rows using List.reverseRecOn with
  | nil => rfl
  | append_singleton rows row ih =>
    rw [List.foldl_append, List.foldl_cons, List.foldl_nil, add_byPackage, List.findSome?_append, ih]
    simp

theorem mem_resolverRows {scan : List IngredientProductMapping} {m : IngredientProductMapping} {ingredient : Ingredient}
    {product : Product} (hm : m ∈ scan) (hactive : m.isActive = true)
    (hingredient : row? (·.id) shop.ingredients m.ingredientId = some ingredient)
    (hproduct : row? (·.id) shop.products m.productId = some product) :
    (ingredient, product) ∈ resolverRows shop scan :=
  List.mem_filterMap.mpr ⟨m, hm, by simp [hingredient, hproduct, hactive]⟩

theorem mem_of_grown {d : Dict Nat (List Product)} {ingredientId k : Nat} {products : List Product}
    {product last : Product} (h : (d.set k (d.getD k [] ++ [last])).get? ingredientId = some products)
    (hmem : product ∈ products) :
    (∃ old, d.get? ingredientId = some old ∧ product ∈ old) ∨ (k = ingredientId ∧ last = product) := by
  rw [Dict.get?_set] at h
  split at h
  · next hid =>
    obtain rfl := Option.some.inj h
    rcases List.mem_append.mp hmem with hmem | hmem
    · rw [Dict.getD, ← hid] at hmem
      cases hget : d.get? ingredientId with
      | none =>
        rw [hget] at hmem
        cases hmem
      | some old => exact Or.inl ⟨old, rfl, by simpa [hget] using hmem⟩
    · exact Or.inr ⟨hid.symm, (List.mem_singleton.mp hmem).symm⟩
  · exact Or.inl ⟨products, h, hmem⟩

theorem productsByIngredient_mem {ingredientId : Nat} {products : List Product} {product : Product}
    (h : (productsByIngredient shop).get? ingredientId = some products) (hmem : product ∈ products) :
    ∃ m, (m, product) ∈ mappedProducts shop ∧ m.ingredientId = ingredientId := by
  unfold productsByIngredient at h
  generalize mappedProducts shop = rows at h
  induction rows using List.reverseRecOn generalizing products with
  | nil => cases h
  | append_singleton rows row ih =>
    rw [List.foldl_append, List.foldl_cons, List.foldl_nil] at h
    rcases mem_of_grown h hmem with ⟨old, hold, hmem⟩ | ⟨hid, rfl⟩
    · obtain ⟨m, hm, hid⟩ := ih hmem hold
      exact ⟨m, List.mem_append_left _ hm, hid⟩
    · exact ⟨row.1, by simp, hid⟩

theorem mappedProducts_mem {m : IngredientProductMapping} {product : Product} (h : (m, product) ∈ mappedProducts shop) :
    m ∈ shop.mappings ∧ m.isActive = true ∧ row? (·.id) shop.products m.productId = some product := by
  obtain ⟨m', hm', hrow⟩ := List.mem_filterMap.mp ((List.mem_insertionSort _).mp h)
  obtain ⟨product', hproduct, hif⟩ := Option.bind_eq_some_iff.mp hrow
  split at hif
  · next hactive =>
    obtain ⟨rfl, rfl⟩ := Prod.mk.inj (Option.some.inj hif)
    exact ⟨hm', (Bool.and_eq_true_iff.mp hactive).1, hproduct⟩
  · cases hif

theorem buildCatalog_mem {scan : List IngredientProductMapping} (hscan : scan.Perm shop.mappings)
    {retailerId : Option Nat} {entry : CatalogProductDTO} (h : entry ∈ buildCatalog settings shop retailerId) :
    ∃ row ∈ resolverRows shop scan, entry.productId = toString row.2.id := by
  obtain ⟨⟨ingredientId, products⟩, hentry, hbind⟩ := List.mem_filterMap.mp h
  obtain ⟨ingredient, hingredient, hcatalog⟩ := Option.bind_eq_some_iff.mp hbind
  simp only [catalogProduct] at hcatalog
  split at hcatalog
  · cases hcatalog
  · obtain ⟨first, hfirst, rfl⟩ := Option.map_eq_some_iff.mp hcatalog
    obtain ⟨m, hm, rfl⟩ := productsByIngredient_mem (Dict.mem_entries_iff.mp hentry) (List.mem_of_mem_head? hfirst)
    obtain ⟨hmapping, hactive, hproduct⟩ := mappedProducts_mem hm
    exact ⟨_, mem_resolverRows (hscan.mem_iff.mpr hmapping) hactive hingredient hproduct, rfl⟩

end Tables

/-! ### The line -/

/-- The price has the package and the price of the line. -/
structure ProductPrice.Charged (price : ProductPrice) (line : GroceryLineDTO) : Prop where
  quantity : line.packageQuantity = some price.packageQuantity
  unit : line.packageUnit = some price.packageUnit
  amount : line.packagePrice = some price.amount

/-- What is kept of the line names a price with the package and the price that it was charged. -/
def Traceable (shop : Shop) (line : GroceryLineDTO) (kept : Provenance) : Prop :=
  ∃ price ∈ shop.prices, kept.priceId = some price.id ∧ kept.productId = some price.productId ∧ price.Charged line

/-- The product under which the entry goes sells what was charged. It has no price of the chain at all where it counts
    for nothing, and then the first mapped product with the format does. -/
def ChargedAsFirst (latest : Dict Nat ProductPrice) (rows : List (Ingredient × Product)) (line : GroceryLineDTO) :
    Prop :=
  ∃ productId, line.productId = some (toString productId) ∧
    ((∃ price, latest.get? productId = some price ∧ price.Charged line) ∨
      (latest.get? productId = none ∧ ∃ unit quantity price,
        rows.findSome? (formatPriceOf latest line.canonicalName unit quantity) = some price ∧ price.Charged line))

section Line
variable {settings : Settings} {shop : Shop} {latest : Dict Nat ProductPrice} {rows : List (Ingredient × Product)}
  {line : GroceryLineDTO}

theorem findSome?_productPriceOf {productId : Nat} {row : Ingredient × Product} (hrow : row ∈ rows)
    (hid : row.2.id = productId) : rows.findSome? (productPriceOf latest productId) = latest.get? productId := by
  induction rows with
  | nil => cases hrow
  | cons first rows ih =>
    rw [List.findSome?_cons]
    by_cases hfirst : first.2.id = productId
    · subst hfirst
      cases hprice : latest.get? first.2.id with
      | some price => simp [productPriceOf, hprice, Option.filter_some]
      | none =>
        have hrest : rows.findSome? (productPriceOf latest first.2.id) = none := by
          refine List.findSome?_eq_none_iff.mpr fun row _ => ?_
          unfold productPriceOf
          by_cases hrow : row.2.id = first.2.id
          · rw [hrow, hprice]
            rfl
          · simp [hrow]
        simp [productPriceOf, hprice, hrest]
    · rcases List.mem_cons.mp hrow with rfl | hrow
      · exact absurd hid hfirst
      · simp [productPriceOf, hfirst, ← ih hrow]

def ProductPrice.provenance (price : ProductPrice) : Provenance where
  productId := some price.productId
  priceId := some price.id
  unitPrice := price.unitPrice

/-- The latest prices are rows of the table, each under its product. -/
structure OfTable (shop : Shop) (latest : Dict Nat ProductPrice) : Prop where
  ids : (shop.prices.map (·.id)).Nodup
  latest_mem : ∀ productId price, latest.get? productId = some price → price ∈ shop.prices ∧ price.productId = productId

theorem resolver_byProduct (h : OfTable shop latest) (productId : Nat) :
    (rows.foldl (LineResolver.add latest) {}).byProduct.get? productId =
      (rows.findSome? (productPriceOf latest productId)).map ProductPrice.provenance := by
  rw [byProduct_get?, List.map_findSome?]
  congr 1
  funext row
  refine Option.map_congr fun price hprice => ?_
  rw [provenanceOf, ← (h.latest_mem _ _ (Option.mem_filter_iff.mp hprice).1).2]
  rfl

theorem resolver_byPackage (h : OfTable shop latest) (name unit : String) (quantity : ℚ) :
    (rows.foldl (LineResolver.add latest) {}).byPackage.get? (name, unit, quantity) =
      (rows.findSome? (formatPriceOf latest name unit quantity)).map ProductPrice.provenance := by
  rw [byPackage_get?, List.map_findSome?]
  congr 1
  funext row
  refine Option.map_congr fun price hprice => ?_
  rw [provenanceOf, ← (h.latest_mem _ _ (Option.mem_filter_iff.mp hprice).1).2]
  rfl

theorem formatPriceOf_mem {name unit : String} {quantity : ℚ} {price : ProductPrice}
    (h : rows.findSome? (formatPriceOf latest name unit quantity) = some price) :
    (∃ productId, latest.get? productId = some price) ∧ price.packageUnit = unit ∧ price.packageQuantity = quantity := by
  obtain ⟨row, -, hrow⟩ := List.exists_of_findSome?_eq_some h
  obtain ⟨hlatest, hformat⟩ := Option.filter_eq_some_iff.mp hrow
  simp only [Bool.and_eq_true, decide_eq_true_eq] at hformat
  exact ⟨⟨_, hlatest⟩, hformat.1.2, hformat.2⟩

theorem traceable_provenance (hids : (shop.prices.map (·.id)).Nodup) {price : ProductPrice} (hprice : price ∈ shop.prices) :
    Traceable shop line price.provenance ↔ price.Charged line := by
  constructor
  · rintro ⟨price', hprice', hid, -, hcharged⟩
    have hsame : price = price' := List.inj_on_of_nodup_map hids hprice hprice' (Option.some.inj hid)
    exact hsame ▸ hcharged
  · exact fun hcharged => ⟨price, hprice, rfl, rfl, hcharged⟩

theorem traceable_resolve_iff (h : OfTable shop latest) {row : Ingredient × Product} (hrow : row ∈ rows)
    (hline : line.productId = some (toString row.2.id)) :
    Traceable shop line ((rows.foldl (LineResolver.add latest) {}).resolve line) ↔ ChargedAsFirst latest rows line := by
  have hproduct : line.productId.bind String.toNat? = some row.2.id := by
    rw [hline]
    exact Nat.toNat?_repr row.2.id
  have hfirst : ∀ productId, line.productId = some (toString productId) → productId = row.2.id := by
    intro productId hid
    exact Nat.repr_injective (Option.some.inj (hid.symm.trans hline))
  unfold LineResolver.resolve
  simp only [hproduct, Option.bind_some, resolver_byProduct h, findSome?_productPriceOf hrow rfl]
  cases hlatest : latest.get? row.2.id with
  | some price =>
    simp only [Option.map_some]
    rw [traceable_provenance h.ids (h.latest_mem _ _ hlatest).1]
    constructor
    · exact fun hcharged => ⟨row.2.id, hline, Or.inl ⟨price, hlatest, hcharged⟩⟩
    · rintro ⟨productId, hid, ⟨price', hprice', hcharged⟩ | ⟨hnone, -⟩⟩
      · obtain rfl := hfirst productId hid
        obtain rfl := Option.some.inj (hlatest.symm.trans hprice')
        exact hcharged
      · obtain rfl := hfirst productId hid
        rw [hlatest] at hnone
        cases hnone
  | none =>
    simp only [Option.map_none]
    constructor
    · intro htraceable
      cases hquantity : line.packageQuantity with
      | none =>
        obtain ⟨price, -, -, -, hcharged⟩ := htraceable
        exact absurd (hquantity.symm.trans hcharged.quantity) (by simp)
      | some quantity =>
        cases hunit : line.packageUnit with
        | none =>
          obtain ⟨price, -, -, -, hcharged⟩ := htraceable
          exact absurd (hunit.symm.trans hcharged.unit) (by simp)
        | some unit =>
          simp only [hquantity, hunit, Option.bind_eq_bind, Option.bind_some, resolver_byPackage h] at htraceable
          cases hformat : rows.findSome? (formatPriceOf latest line.canonicalName unit quantity) with
          | none =>
            rw [hformat] at htraceable
            obtain ⟨price, -, hid, -⟩ := htraceable
            cases hid
          | some price =>
            rw [hformat] at htraceable
            obtain ⟨⟨productId, hprice⟩, -⟩ := formatPriceOf_mem hformat
            exact ⟨row.2.id, hline, Or.inr ⟨hlatest, unit, quantity, price, hformat,
              (traceable_provenance h.ids (h.latest_mem _ _ hprice).1).mp htraceable⟩⟩
    · rintro ⟨productId, hid, ⟨price, hprice, -⟩ | ⟨-, unit, quantity, price, hformat, hcharged⟩⟩
      · obtain rfl := hfirst productId hid
        rw [hlatest] at hprice
        cases hprice
      · obtain ⟨⟨productId, hprice⟩, rfl, rfl⟩ := formatPriceOf_mem hformat
        simp only [hcharged.quantity, hcharged.unit, Option.bind_eq_bind, Option.bind_some, resolver_byPackage h, hformat]
        exact (traceable_provenance h.ids (h.latest_mem _ _ hprice).1).mpr hcharged

end Line

/-! ### The plan -/

section Plan
variable {py : Runtime} {settings : Settings} {shop : Shop} {inp : PlanInput}

theorem buildCatalog_none : buildCatalog settings shop none = [] := by
  refine List.filterMap_eq_nil_iff.mpr fun entry _ => ?_
  cases row? (·.id) shop.ingredients entry.1 with
  | none => rfl
  | some ingredient => simp [catalogProduct, latestPrices]

theorem ofTable (hids : (shop.prices.map (·.id)).Nodup) (retailerId : Option Nat) :
    OfTable shop (latestPrices settings shop retailerId) := ⟨hids, fun _ _ => latestPrices_mem⟩

/-- A line that was charged keeps the price that it was charged, exactly where the product under which its entry goes
    sells the charged format at that price. -/
theorem traceable_line_iff {scan : List IngredientProductMapping} (hscan : scan.Perm shop.mappings)
    (hids : (shop.prices.map (·.id)).Nodup) {retailerId : Option Nat} {product : CatalogProductDTO}
    (hproduct : product ∈ buildCatalog settings shop retailerId) {line : GroceryLineDTO}
    (hline : line.productId = some product.productId) :
    Traceable shop line ((lineResolver settings shop scan retailerId).resolve line) ↔
      ChargedAsFirst (latestPrices settings shop retailerId) (resolverRows shop scan) line := by
  obtain ⟨row, hrow, hid⟩ := buildCatalog_mem hscan hproduct
  cases retailerId with
  | none =>
    rw [buildCatalog_none] at hproduct
    cases hproduct
  | some retailerId =>
    have htable : OfTable shop (latestPriceByProduct settings shop (some retailerId)) := ofTable hids (some retailerId)
    exact traceable_resolve_iff htable hrow (hline.trans (congrArg some hid))

theorem exists_charged_option {r : PlanResult} (h : generatePlan py inp = .completed r) {line : GroceryLineDTO}
    (hline : line ∈ r.groceryLines) (hprice : line.packagePrice ≠ none) :
    ∃ product ∈ inp.catalog, ∃ opt ∈ product.packages, line.productId = some product.productId ∧
      line.packageQuantity = some opt.packageQuantity ∧ line.packageUnit = some opt.packageUnit ∧
        line.packagePrice = some opt.amount := by
  rcases generatePlan_completed_iff.mp h with ⟨-, rfl⟩ | ⟨-, recipes, -, -, rfl⟩
  · cases hline
  obtain ⟨lineMeta, product, needed, pantryUsed, pending, choice, ⟨ing, hmatch⟩, hchoice, rfl⟩ :=
    Provisioner.charged_line hline hprice
  exact ⟨product, mem_of_matchIngredient hmatch, choice.option, (choosePackage_mem hchoice).1, rfl, rfl, rfl, rfl⟩

/-- What every line of a plan keeps of its price. -/
theorem traceable_iff (scan : List IngredientProductMapping) (hscan : scan.Perm shop.mappings)
    (hids : (shop.prices.map (·.id)).Nodup) (retailerId : Option Nat)
    (hcatalog : inp.catalog = buildCatalog settings shop retailerId) (r : PlanResult)
    (h : generatePlan py inp = .completed r) (line : GroceryLineDTO) (hline : line ∈ r.groceryLines)
    (hprice : line.packagePrice ≠ none) :
    (∃ product ∈ inp.catalog, ∃ opt ∈ product.packages, line.productId = some product.productId ∧
      line.packageQuantity = some opt.packageQuantity ∧ line.packageUnit = some opt.packageUnit ∧
        line.packagePrice = some opt.amount) ∧
      (Traceable shop line ((lineResolver settings shop scan retailerId).resolve line) ↔
        ChargedAsFirst (latestPrices settings shop retailerId) (resolverRows shop scan) line) := by
  obtain ⟨product, hproduct, -, -, hid, -⟩ := exists_charged_option h hline hprice
  exact ⟨exists_charged_option h hline hprice, traceable_line_iff hscan hids (hcatalog ▸ hproduct) hid⟩

end Plan

/-! ### Two formats of milk -/

/-- A litre of milk for 1 euro is the first choice; a litre and a half costs 1.20. -/
def milkShop : Shop where
  ingredients := [{ id := 1, canonicalName := "leche", displayName := "Leche" }]
  products := [{ id := 1 }, { id := 2 }]
  mappings :=
    [{ ingredientId := 1, productId := 1, preferenceRank := some 1 },
     { ingredientId := 1, productId := 2, preferenceRank := some 2 }]
  prices :=
    [{ id := 1, retailerId := 1, storeId := 1, productId := 1, amount := 1, packageQuantity := 1, packageUnit := "l",
       sourceType := "official", sourceName := "mercadona", observedAt := 0 },
     { id := 2, retailerId := 1, storeId := 1, productId := 2, amount := 6 / 5, packageQuantity := 3 / 2,
       packageUnit := "l", sourceType := "official", sourceName := "mercadona", observedAt := 0 }]

def milkPlan (quantity : ℚ) : PlanInput where
  members := [{ memberAlias := "Ana" }]
  mealRequirements := [{ mealType := .breakfast, requestedCount := 1 }]
  budget := { amount := 5 }
  dateRange := (719200, 719200)
  catalog := buildCatalog {} milkShop (some 1)
  candidates :=
    [{ recipeId := "r1", title := "Arroz con leche", mealTypes := [.breakfast]
       ingredients := [{ canonicalName := "leche", displayName := "Leche", quantity := quantity, unit := "l" }] }]

theorem milkShop_ids : (milkShop.prices.map (·.id)).Nodup := by decide

/-- A litre is bought as such, and its line keeps the price. -/
theorem traceable_iff_litre : ∃ r, generatePlan (Runtime.replay []) (milkPlan 1) = .completed r ∧
    ∃ line ∈ r.groceryLines, line.packagePrice = some 1 ∧
      (Traceable milkShop line ((lineResolver {} milkShop milkShop.mappings (some 1)).resolve line) ↔
        ChargedAsFirst (latestPrices {} milkShop (some 1)) (resolverRows milkShop milkShop.mappings) line) := by
  have hplan : ((generatePlan (Runtime.replay []) (milkPlan 1)).result?.any fun r =>
      r.groceryLines.any (·.packagePrice = some 1)) = true := by decide +kernel
  obtain ⟨r, hr, hlines⟩ := exists_completed _ hplan
  obtain ⟨line, hline, hprice⟩ := List.any_eq_true.mp hlines
  have hprice : line.packagePrice = some 1 := of_decide_eq_true hprice
  have hcatalog : (milkPlan 1).catalog = buildCatalog {} milkShop (some 1) := rfl
  have hcharged : line.packagePrice ≠ none := hprice ▸ Option.some_ne_none _
  exact ⟨r, hr, line, hline, hprice,
    (traceable_iff milkShop.mappings (List.Perm.refl _) milkShop_ids (some 1) hcatalog r hr line hline hcharged).2⟩

/-- A litre and a half is charged to a line that keeps the price of the litre. -/
theorem not_traceable_second_format : ¬∀ (py : Runtime) (settings : Settings) (shop : Shop) (inp : PlanInput)
    (retailerId : Option Nat), (shop.prices.map (·.id)).Nodup → inp.catalog = buildCatalog settings shop retailerId →
      ∀ r, generatePlan py inp = .completed r → ∀ line ∈ r.groceryLines, line.packagePrice ≠ none →
        Traceable shop line ((lineResolver settings shop shop.mappings retailerId).resolve line) := by
  intro h
  have hplan : ((generatePlan (Runtime.replay []) (milkPlan (6 / 5))).result?.any fun r =>
      r.groceryLines.any fun line => line.productId = some "1" && line.packagePrice = some (6 / 5)) = true := by
    decide +kernel
  obtain ⟨r, hr, hlines⟩ := exists_completed _ hplan
  obtain ⟨line, hline, hkept⟩ := List.any_eq_true.mp hlines
  simp only [Bool.and_eq_true, decide_eq_true_eq] at hkept
  have hcatalog : (milkPlan (6 / 5)).catalog = buildCatalog {} milkShop (some 1) := rfl
  have hcharged : line.packagePrice ≠ none := hkept.2 ▸ Option.some_ne_none _
  have htraceable := h _ {} milkShop _ (some 1) milkShop_ids hcatalog r hr line hline hcharged
  obtain ⟨product, hproduct, -, -, hid, -⟩ := exists_charged_option hr hline hcharged
  rw [traceable_line_iff (List.Perm.refl _) milkShop_ids (hcatalog ▸ hproduct) hid] at htraceable
  obtain ⟨productId, hone, hfirst⟩ := htraceable
  obtain rfl : productId = 1 := Nat.repr_injective (Option.some.inj (hone.symm.trans hkept.1))
  have hlatest : ((latestPrices {} milkShop (some 1)).get? 1).map (·.amount) = some 1 := by decide +kernel
  rcases hfirst with ⟨price, hprice, hsold⟩ | ⟨hnone, -⟩
  · rw [hprice, Option.map_some] at hlatest
    have hamount := Option.some.inj (hkept.2.symm.trans hsold.amount)
    rw [← hamount, Option.some.injEq] at hlatest
    norm_num at hlatest
  · rw [hnone] at hlatest
    cases hlatest

end CestaPlan.Catalog
