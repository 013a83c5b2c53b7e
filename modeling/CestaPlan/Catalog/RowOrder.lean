import CestaPlan.Library.Ties
import CestaPlan.Catalog.Entries
import CestaPlan.Catalog.PlanConversions
import Mathlib

/-! The catalogue and the conversions of a plan as functions of the tables, whichever order the database returns their rows
    in (`services/planning_context.py`). The preference of a product leaves ties, and no query says which net content of an
    ingredient comes first. -/

namespace CestaPlan.Catalog
open Engine Updates

/-! ### Orders of the rows -/

/-- The same tables, with their rows in other orders. -/
structure Reordered (shop shop' : Shop) : Prop where
  stores : shop.stores.Perm shop'.stores
  ingredients : shop.ingredients.Perm shop'.ingredients
  products : shop.products.Perm shop'.products
  mappings : shop.mappings.Perm shop'.mappings
  prices : shop.prices.Perm shop'.prices
  variants : shop.variants.Perm shop'.variants

/-- The keys of the tables. -/
structure Keyed (shop : Shop) : Prop where
  ingredients : (shop.ingredients.map (·.id)).Nodup
  names : (shop.ingredients.map (·.canonicalName)).Nodup
  products : (shop.products.map (·.id)).Nodup
  mappings : (shop.mappings.map fun m => (m.ingredientId, m.productId)).Nodup
  prices : (shop.prices.map (·.id)).Nodup
  variants : (shop.variants.map (·.id)).Nodup

/-- The entries are the same; allergens are a set. -/
structure SameEntry (entry entry' : CatalogProductDTO) : Prop where
  productId : entry.productId = entry'.productId
  canonicalName : entry.canonicalName = entry'.canonicalName
  displayName : entry.displayName = entry'.displayName
  category : entry.category = entry'.category
  packages : entry.packages = entry'.packages
  nutrition : entry.nutrition = entry'.nutrition
  allergens : ∀ code, code ∈ entry.allergens ↔ code ∈ entry'.allergens

/-- The catalogue and the conversions do not depend on the orders of the rows. -/
def OrderFree (py : Runtime) (settings : Settings) (shop : Shop) (retailerId : Option Nat) : Prop :=
  ∀ shop₁ shop₂, Reordered shop shop₁ → Reordered shop shop₂ →
    List.Forall₂ SameEntry (buildCatalog settings shop₁ retailerId) (buildCatalog settings shop₂ retailerId) ∧
      SameConversions (planConversions py shop₁) (planConversions py shop₂)

/-! ### Ties -/

/-- The product is mapped to the ingredient. -/
def Maps (shop : Shop) (m : IngredientProductMapping) : Prop :=
  m ∈ shop.mappings ∧ m.isActive = true ∧ (∃ ing, row? (·.id) shop.ingredients m.ingredientId = some ing) ∧
    ∃ product, row? (·.id) shop.products m.productId = some product ∧ product.deletedAt = none

/-- The chain has a price of the product. -/
def Priced (settings : Settings) (shop : Shop) (retailerId : Option Nat) (productId : Nat) : Prop :=
  ∃ retailer ∈ retailerId, ∃ p ∈ chainPrices settings shop retailer, p.productId = productId

/-- Two products of an ingredient have the same preference. -/
structure Tied (shop : Shop) (m₁ m₂ : IngredientProductMapping) : Prop where
  left : Maps shop m₁
  right : Maps shop m₂
  ingredient : m₁.ingredientId = m₂.ingredientId
  rank : m₁.preferenceRank = m₂.preferenceRank
  products : m₁.productId ≠ m₂.productId

/-- No tie shows: of two products with one preference at most one has a price, an ingredient with a price has one product
    that is preferred to all others, and the net contents of an ingredient give one conversion. -/
structure Untied (py : Runtime) (settings : Settings) (shop : Shop) (retailerId : Option Nat) : Prop where
  priced : ∀ m₁ m₂, Tied shop m₁ m₂ →
    ¬(Priced settings shop retailerId m₁.productId ∧ Priced settings shop retailerId m₂.productId)
  first : ∀ m₁ m₂, Tied shop m₁ m₂ →
    (∃ m, Maps shop m ∧ m.ingredientId = m₁.ingredientId ∧ Priced settings shop retailerId m.productId) →
      ∃ m, Maps shop m ∧ m.ingredientId = m₁.ingredientId ∧ ¬rankUpTo m₁.preferenceRank m.preferenceRank
  contents : ∀ row ∈ netContents shop, ∀ row' ∈ netContents shop, ∀ c c', netConversion py row = some c →
    netConversion py row' = some c' → c.canonicalName = c'.canonicalName → c = c'

/-! ### The orders of the queries -/

theorem rankUpTo_refl (a : Option Int) : rankUpTo a a := by cases a <;> simp [rankUpTo]

theorem rankUpTo_antisymm {a b : Option Int} (hab : rankUpTo a b) (hba : rankUpTo b a) : a = b := by
  cases a <;> cases b <;> simp only [rankUpTo] at hab hba ⊢
  exact congrArg some (le_antisymm hab hba)

theorem rankUpTo_total (a b : Option Int) : rankUpTo a b ∨ rankUpTo b a := by
  cases a <;> cases b <;> simp only [rankUpTo, true_or, or_true]
  exact le_total _ _

theorem rankUpTo_trans {a b c : Option Int} (hab : rankUpTo a b) (hbc : rankUpTo b c) : rankUpTo a c := by
  cases a <;> cases b <;> cases c <;> simp only [rankUpTo] at hab hbc ⊢
  exact le_trans hab hbc

instance : Std.Total byRank where
  total a b := by
    rcases lt_trichotomy a.1.ingredientId b.1.ingredientId with h | h | h
    · exact Or.inl (Or.inl h)
    · exact (rankUpTo_total a.1.preferenceRank b.1.preferenceRank).imp (fun hr => Or.inr ⟨h, hr⟩)
        fun hr => Or.inr ⟨h.symm, hr⟩
    · exact Or.inr (Or.inl h)

instance : IsTrans (IngredientProductMapping × Product) byRank where
  trans a b c hab hbc := by
    rcases hab with hab | ⟨hab, hrank⟩
    · rcases hbc with hbc | ⟨hbc, -⟩
      · exact Or.inl (hab.trans hbc)
      · exact Or.inl (hbc ▸ hab)
    · rcases hbc with hbc | ⟨hbc, hrank'⟩
      · exact Or.inl (hab ▸ hbc)
      · exact Or.inr ⟨hab.trans hbc, rankUpTo_trans hrank hrank'⟩

instance : Std.Total newestFirst where
  total a b := by
    unfold newestFirst
    grind

instance : IsTrans ProductPrice newestFirst where
  trans a b c hab hbc := by
    unfold newestFirst at *
    grind

theorem newestFirst_antisymm {a b : ProductPrice} (hab : newestFirst a b) (hba : newestFirst b a) : a.id = b.id := by
  unfold newestFirst at hab hba
  grind

/-! ### What no order changes -/

section Invariant
variable {settings : Settings} {shop shop' : Shop} {retailerId : Option Nat}

theorem chainPrices_reordered (h : Reordered shop shop') (retailer : Nat) :
    (chainPrices settings shop retailer).Perm (chainPrices settings shop' retailer) := by
  have hzone : (zoneStoreIds settings shop retailer).Perm (zoneStoreIds settings shop' retailer) := by
    unfold zoneStoreIds
    dsimp only
    split
    · exact List.Perm.refl _
    · exact (h.stores.filter _).map _
  unfold chainPrices
  dsimp only
  rw [hzone.isEmpty_eq]
  refine (h.prices.filter _).trans (List.Perm.of_eq (List.filter_congr fun p _ => ?_))
  rw [Bool.eq_iff_iff]
  simp only [Bool.and_eq_true, Bool.or_eq_true, List.contains_iff_mem, hzone.mem_iff]

theorem latestPrices_reordered (hk : Keyed shop) (h : Reordered shop shop') :
    latestPrices settings shop retailerId = latestPrices settings shop' retailerId := by
  cases retailerId with
  | none => rfl
  | some retailer =>
    have hsorted : (chainPrices settings shop retailer).insertionSort newestFirst =
        (chainPrices settings shop' retailer).insertionSort newestFirst := by
      refine Ties.insertionSort_eq_of_untied (chainPrices_reordered h retailer) fun a ha b hb hab hba => ?_
      exact List.inj_on_of_nodup_map hk.prices (List.mem_of_mem_filter ha) (List.mem_of_mem_filter hb)
        (newestFirst_antisymm hab hba)
    show firstPerProduct _ = firstPerProduct _
    rw [firstPerProduct, hsorted, firstPerProduct]

theorem row?_ingredients (hk : Keyed shop) (h : Reordered shop shop') (ingredientId : Nat) :
    row? (·.id) shop'.ingredients ingredientId = row? (·.id) shop.ingredients ingredientId :=
  (row?_perm h.ingredients hk.ingredients).symm

theorem row?_products (hk : Keyed shop) (h : Reordered shop shop') (productId : Nat) :
    row? (·.id) shop'.products productId = row? (·.id) shop.products productId :=
  (row?_perm h.products hk.products).symm

theorem mappedRows_reordered (hk : Keyed shop) (h : Reordered shop shop') :
    (mappedRows shop).Perm (mappedRows shop') := by
  have hrow : mappedRow shop' = mappedRow shop := by
    funext m
    simp only [mappedRow, row?_products hk h]
  unfold mappedRows
  rw [hrow]
  exact h.mappings.filterMap _

theorem byRank_ingredientId {a b : IngredientProductMapping × Product} (h : byRank a b) :
    a.1.ingredientId ≤ b.1.ingredientId := by
  rcases h with h | ⟨h, -⟩
  · exact h.le
  · exact h.le

theorem ingredientIds_reordered (hk : Keyed shop) (h : Reordered shop shop') :
    (mappedProducts shop).map (·.1.ingredientId) = (mappedProducts shop').map (·.1.ingredientId) := by
  have hsorted : ∀ shop : Shop, ((mappedProducts shop).map (·.1.ingredientId)).Pairwise (· ≤ ·) := fun shop =>
    List.pairwise_map.mpr ((List.pairwise_insertionSort byRank _).imp byRank_ingredientId)
  have hperm : (mappedProducts shop).Perm (mappedProducts shop') := by
    rw [mappedProducts_eq, mappedProducts_eq]
    exact ((List.perm_insertionSort byRank _).trans (mappedRows_reordered hk h)).trans
      (List.perm_insertionSort byRank _).symm
  exact Ties.eq_of_untied (hperm.map _) (hsorted shop) (hsorted shop') fun a _ b _ hab hba => le_antisymm hab hba

/-- The mapped products of an ingredient, in the order of the table. -/
def rowsOf (shop : Shop) (ingredientId : Nat) : List (IngredientProductMapping × Product) :=
  Grouping.group (·.1.ingredientId) (mappedRows shop) ingredientId

theorem productsOf_eq (ingredientId : Nat) :
    productsOf shop ingredientId = ((rowsOf shop ingredientId).insertionSort byRank).map (·.2) := by
  rw [productsOf, mappedProducts_eq, Grouping.group, Ties.filter_insertionSort]
  rfl

theorem rowsOf_reordered (hk : Keyed shop) (h : Reordered shop shop') (ingredientId : Nat) :
    (rowsOf shop ingredientId).Perm (rowsOf shop' ingredientId) := (mappedRows_reordered hk h).filter _

theorem mem_rowsOf {ingredientId : Nat} {row : IngredientProductMapping × Product} :
    row ∈ rowsOf shop ingredientId ↔ row.1 ∈ shop.mappings ∧ row.1.isActive = true ∧ row.1.ingredientId = ingredientId ∧
      row? (·.id) shop.products row.1.productId = some row.2 ∧ row.2.deletedAt = none := by
  rw [rowsOf, Grouping.mem_group, mem_mappedRows]
  tauto

theorem maps_of_mem_rowsOf {ingredientId : Nat} {row : IngredientProductMapping × Product} {ing : Ingredient}
    (hing : row? (·.id) shop.ingredients ingredientId = some ing) (h : row ∈ rowsOf shop ingredientId) :
    Maps shop row.1 := by
  obtain ⟨hm, hactive, rfl, hproduct, hkept⟩ := mem_rowsOf.mp h
  exact ⟨hm, hactive, ⟨ing, hing⟩, row.2, hproduct, hkept⟩

theorem exists_mem_rowsOf {m : IngredientProductMapping} (h : Maps shop m) :
    ∃ product, (m, product) ∈ rowsOf shop m.ingredientId := by
  obtain ⟨hm, hactive, -, product, hproduct, hkept⟩ := h
  exact ⟨product, mem_rowsOf.mpr ⟨hm, hactive, rfl, hproduct, hkept⟩⟩

theorem exists_latestPrices_iff_priced {productId : Nat} :
    (∃ price, (latestPrices settings shop retailerId).get? productId = some price) ↔
      Priced settings shop retailerId productId := by
  cases retailerId with
  | none => exact iff_of_false (by rintro ⟨price, h⟩; cases h) (by rintro ⟨retailer, h, -⟩; cases h)
  | some retailer =>
    rw [exists_latestPrices_iff, Priced]
    simp only [Option.mem_def, Option.some.injEq, exists_eq_left']

theorem row_ext (hk : Keyed shop) {ingredientId : Nat} {a b : IngredientProductMapping × Product}
    (ha : a ∈ rowsOf shop ingredientId) (hb : b ∈ rowsOf shop ingredientId) (hproduct : a.1.productId = b.1.productId) :
    a = b := by
  obtain ⟨hma, -, hida, hrowa, -⟩ := mem_rowsOf.mp ha
  obtain ⟨hmb, -, hidb, hrowb, -⟩ := mem_rowsOf.mp hb
  have hm : a.1 = b.1 :=
    List.inj_on_of_nodup_map hk.mappings hma hmb (Prod.ext (hida.trans hidb.symm) hproduct)
  refine Prod.ext hm ?_
  rw [hm, hrowb] at hrowa
  exact (Option.some.inj hrowa).symm

theorem rank_of_byRank {ingredientId : Nat} {a b : IngredientProductMapping × Product}
    (ha : a ∈ rowsOf shop ingredientId) (hb : b ∈ rowsOf shop ingredientId) (h : byRank a b) :
    rankUpTo a.1.preferenceRank b.1.preferenceRank := by
  have hida := (mem_rowsOf.mp ha).2.2.1
  have hidb := (mem_rowsOf.mp hb).2.2.1
  rcases h with h | ⟨-, h⟩
  · omega
  · exact h

theorem tied_of_byRank {ingredientId : Nat} {ing : Ingredient}
    (hing : row? (·.id) shop.ingredients ingredientId = some ing) {a b : IngredientProductMapping × Product}
    (ha : a ∈ rowsOf shop ingredientId) (hb : b ∈ rowsOf shop ingredientId) (hab : byRank a b) (hba : byRank b a)
    (hne : a.1.productId ≠ b.1.productId) : Tied shop a.1 b.1 where
  left := maps_of_mem_rowsOf hing ha
  right := maps_of_mem_rowsOf hing hb
  ingredient := (mem_rowsOf.mp ha).2.2.1.trans (mem_rowsOf.mp hb).2.2.1.symm
  rank := rankUpTo_antisymm (rank_of_byRank ha hb hab) (rank_of_byRank hb ha hba)
  products := hne

end Invariant

/-! ### The conversions of an ingredient -/

section Conversions
variable {py : Runtime} {settings : Settings} {shop shop' : Shop} {retailerId : Option Nat} {name : String}

theorem densityConversion_eq (hk : Keyed shop) {c c' : IngredientConversionDTO}
    (hc : c ∈ (densityRows shop).filterMap densityConversion) (hc' : c' ∈ (densityRows shop).filterMap densityConversion)
    (hname : c.canonicalName = c'.canonicalName) : c = c' := by
  have hsource : ∀ {c : IngredientConversionDTO}, c ∈ (densityRows shop).filterMap densityConversion →
      ∃ ing ∈ shop.ingredients, densityConversion (ing.canonicalName, ing.densityGPerMl) = some c ∧
        c.canonicalName = ing.canonicalName := by
    intro c hc
    obtain ⟨row, hrow, hdensity⟩ := List.mem_filterMap.mp hc
    obtain ⟨ing, hing, rfl⟩ := List.mem_map.mp hrow
    refine ⟨ing, List.mem_of_mem_filter hing, hdensity, ?_⟩
    obtain ⟨density, -, hif⟩ := Option.bind_eq_some_iff.mp hdensity
    rw [Option.ite_none_right_eq_some] at hif
    exact (congrArg IngredientConversionDTO.canonicalName (Option.some.inj hif.2)).symm
  obtain ⟨ing, hing, hdensity, hingname⟩ := hsource hc
  obtain ⟨ing', hing', hdensity', hingname'⟩ := hsource hc'
  have hsame : ing = ing' :=
    List.inj_on_of_nodup_map hk.names hing hing' (hingname.symm.trans (hname.trans hingname'))
  rw [hsame] at hdensity
  exact Option.some.inj (hdensity.symm.trans hdensity')

theorem netContents_reordered (hk : Keyed shop) (h : Reordered shop shop') :
    (netContents shop).Perm (netContents shop') := by
  have hrow : netContentOf shop' = netContentOf shop := by
    funext m
    have hvariants : ∀ i, row? (·.id) shop'.variants i = row? (·.id) shop.variants i := fun i =>
      (row?_perm h.variants hk.variants).symm
    simp only [netContentOf, row?_ingredients hk h, hvariants]
  unfold netContents
  rw [hrow]
  exact h.mappings.filterMap _

/-- Without net contents that differ the conversions of an ingredient are the same. -/
theorem Untied.conversions (hu : Untied py settings shop retailerId) (hk : Keyed shop) (h : Reordered shop shop') :
    SameConversions (planConversions py shop) (planConversions py shop') := by
  have hpairwise : ∀ l : List IngredientConversionDTO, l.Pairwise fun _ _ => True := fun l =>
    List.pairwise_of_forall fun _ _ => trivial
  intro name
  have hdensities : Grouping.group (·.canonicalName) ((densityRows shop).filterMap densityConversion) name =
      Grouping.group (·.canonicalName) ((densityRows shop').filterMap densityConversion) name := by
    have hrows : (densityRows shop).Perm (densityRows shop') := (h.ingredients.filter _).map _
    refine Ties.filter_eq_of_untied (hrows.filterMap _) (hpairwise _) (hpairwise _) fun c hc c' hc' hname hname' _ _ => ?_
    exact densityConversion_eq hk hc hc' ((of_decide_eq_true hname).trans (of_decide_eq_true hname').symm)
  have hcontents : Grouping.group (·.canonicalName) ((netContents shop).filterMap (netConversion py)) name =
      Grouping.group (·.canonicalName) ((netContents shop').filterMap (netConversion py)) name := by
    refine Ties.filter_eq_of_untied ((netContents_reordered hk h).filterMap _) (hpairwise _) (hpairwise _)
      fun c hc c' hc' hname hname' _ _ => ?_
    obtain ⟨row, hrow, hc⟩ := List.mem_filterMap.mp hc
    obtain ⟨row', hrow', hc'⟩ := List.mem_filterMap.mp hc'
    exact hu.contents row hrow row' hrow' c c' hc hc' ((of_decide_eq_true hname).trans (of_decide_eq_true hname').symm)
  rw [group_planConversions, group_planConversions, hcontents]
  refine congrArg (· ++ _) ?_
  rw [Grouping.group, List.filter_append, ← Grouping.group, hdensities, Grouping.group, ← List.filter_append]
  rfl

end Conversions

/-! ### Without a tie that shows -/

section Untied
variable {py : Runtime} {settings : Settings} {shop shop' : Shop} {retailerId : Option Nat}

/-- An ingredient has the same entry. -/
theorem Untied.entry (hu : Untied py settings shop retailerId) (hk : Keyed shop) (h : Reordered shop shop')
    {ingredientId : Nat} {ing : Ingredient} (hing : row? (·.id) shop.ingredients ingredientId = some ing) :
    catalogProduct settings (latestPrices settings shop' retailerId) ing (productsOf shop' ingredientId) =
      catalogProduct settings (latestPrices settings shop retailerId) ing (productsOf shop ingredientId) := by
  rw [← latestPrices_reordered hk h]
  have hperm : ((rowsOf shop ingredientId).insertionSort byRank).Perm ((rowsOf shop' ingredientId).insertionSort byRank) :=
    ((List.perm_insertionSort byRank _).trans (rowsOf_reordered hk h ingredientId)).trans
      (List.perm_insertionSort byRank _).symm
  have hsorted := List.pairwise_insertionSort byRank (rowsOf shop ingredientId)
  have hsorted' := List.pairwise_insertionSort byRank (rowsOf shop' ingredientId)
  by_cases hprice : ∃ row ∈ rowsOf shop ingredientId, Priced settings shop retailerId row.1.productId
  · refine (catalogProduct_congr ?_ ?_).symm
    · rw [productsOf_eq, productsOf_eq, List.head?_map, List.head?_map]
      refine Ties.head?_map_eq hperm hsorted hsorted' fun a ha b hb hafirst hbfirst => ?_
      have hmema := (List.mem_insertionSort byRank).mp ha
      have hmemb := (List.mem_insertionSort byRank).mp hb
      by_contra hne
      have hproducts : a.1.productId ≠ b.1.productId := fun heq => hne (congrArg Prod.snd (row_ext hk hmema hmemb heq))
      have htied := tied_of_byRank hing hmema hmemb (hafirst b hb) (hbfirst a ha) hproducts
      have hid := (mem_rowsOf.mp hmema).2.2.1
      obtain ⟨row, hrow, hpriced⟩ := hprice
      obtain ⟨m, hm, hmid, hbetter⟩ := hu.first a.1 b.1 htied
        ⟨row.1, maps_of_mem_rowsOf hing hrow, (mem_rowsOf.mp hrow).2.2.1.trans hid.symm, hpriced⟩
      obtain ⟨product, hproduct⟩ := exists_mem_rowsOf hm
      rw [hmid, hid] at hproduct
      exact hbetter (rank_of_byRank hmema hproduct (hafirst _ ((List.mem_insertionSort byRank).mpr hproduct)))
    · rw [productsOf_eq, productsOf_eq, List.filter_map, List.filter_map]
      refine congrArg (List.map _) (Ties.filter_eq_of_untied hperm hsorted hsorted' fun a ha b hb hpa hpb hab hba => ?_)
      have hmema := (List.mem_insertionSort byRank).mp ha
      have hmemb := (List.mem_insertionSort byRank).mp hb
      by_contra hne
      have hproducts : a.1.productId ≠ b.1.productId := fun heq => hne (row_ext hk hmema hmemb heq)
      have hpriced : ∀ row ∈ rowsOf shop ingredientId,
          ((latestPrices settings shop retailerId).get? row.2.id).isSome = true →
            Priced settings shop retailerId row.1.productId := fun row hrow hsome => by
        rw [← exists_latestPrices_iff_priced, ← key_of_row? (mem_rowsOf.mp hrow).2.2.2.1]
        exact Option.isSome_iff_exists.mp hsome
      exact hu.priced a.1 b.1 (tied_of_byRank hing hmema hmemb hab hba hproducts)
        ⟨hpriced a hmema hpa, hpriced b hmemb hpb⟩
  · have hnone : ∀ shop', Reordered shop shop' → catalogProduct settings (latestPrices settings shop retailerId) ing
        (productsOf shop' ingredientId) = none := fun shop' h => by
      by_contra hsome
      obtain ⟨product, hproduct, hpriced⟩ := exists_catalogProduct_iff.mp (Option.ne_none_iff_exists'.mp hsome)
      rw [productsOf_eq] at hproduct
      obtain ⟨row, hrow, rfl⟩ := List.mem_map.mp hproduct
      have hmem := (rowsOf_reordered hk h ingredientId).mem_iff.mpr ((List.mem_insertionSort byRank).mp hrow)
      refine hprice ⟨row, hmem, ?_⟩
      rw [← exists_latestPrices_iff_priced, ← key_of_row? (mem_rowsOf.mp hmem).2.2.2.1]
      exact hpriced
    have hself : Reordered shop shop := ⟨.refl _, .refl _, .refl _, .refl _, .refl _, .refl _⟩
    rw [hnone shop' h, hnone shop hself]

/-- The catalogue is the same. -/
theorem Untied.catalog (hu : Untied py settings shop retailerId) (hk : Keyed shop) (h : Reordered shop shop') :
    buildCatalog settings shop' retailerId = buildCatalog settings shop retailerId := by
  rw [buildCatalog_eq, buildCatalog_eq, ingredientIds_reordered hk h]
  refine List.filterMap_congr fun ingredientId _ => ?_
  rw [row?_ingredients hk h]
  cases hing : row? (·.id) shop.ingredients ingredientId with
  | none => rw [Option.bind_none, Option.bind_none]
  | some ing => exact hu.entry hk h hing

end Untied

/-! ### A tie shows -/

section Shown
variable {py : Runtime} {settings : Settings} {shop shop₁ shop₂ : Shop} {retailerId : Option Nat}
variable {m₁ m₂ : IngredientProductMapping} {p₁ p₂ : Product} {ingredientId : Nat} {ing : Ingredient}

/-- The tables with other mappings. -/
def withMappings (shop : Shop) (mappings : List IngredientProductMapping) : Shop := { shop with mappings := mappings }

theorem reordered_withMappings {mappings : List IngredientProductMapping} (h : shop.mappings.Perm mappings) :
    Reordered shop (withMappings shop mappings) where
  stores := .refl _
  ingredients := .refl _
  products := .refl _
  mappings := h
  prices := .refl _
  variants := .refl _

theorem exists_orders (hm₁ : m₁ ∈ shop.mappings) (hm₂ : m₂ ∈ shop.mappings) (hne : m₁ ≠ m₂) :
    ∃ rest, Reordered shop (withMappings shop (m₁ :: m₂ :: rest)) ∧
      Reordered shop (withMappings shop (m₂ :: m₁ :: rest)) := by
  obtain ⟨rest, hrest⟩ := Ties.exists_perm_cons_cons hm₁ hm₂ hne
  exact ⟨rest, reordered_withMappings hrest, reordered_withMappings (hrest.trans (.swap _ _ _))⟩

theorem rowsOf_withMappings_cons (rest : List IngredientProductMapping) (h : (m₁, p₁) ∈ rowsOf shop ingredientId) :
    rowsOf (withMappings shop (m₁ :: rest)) ingredientId =
      (m₁, p₁) :: rowsOf (withMappings shop rest) ingredientId := by
  obtain ⟨-, hactive, hid, hproduct, hkept⟩ := mem_rowsOf.mp h
  have hrow : mappedRow (withMappings shop (m₁ :: rest)) m₁ = some (m₁, p₁) := by
    simp only at hactive hproduct hkept
    simp [mappedRow, withMappings, hproduct, hactive, hkept]
  have hcons : mappedRows (withMappings shop (m₁ :: rest)) = (m₁, p₁) :: mappedRows (withMappings shop rest) :=
    List.filterMap_cons_some hrow
  rw [rowsOf, hcons, Grouping.group, List.filter_cons_of_pos (by simpa using hid)]
  rfl

theorem ingredientId_mem (h : (m₁, p₁) ∈ rowsOf shop ingredientId) :
    ingredientId ∈ (mappedProducts shop).map (·.1.ingredientId) := by
  obtain ⟨hm, hactive, hid, hproduct, hkept⟩ := mem_rowsOf.mp h
  exact List.mem_map.mpr ⟨(m₁, p₁), mem_mappedProducts.mpr ⟨hm, hactive, hproduct, hkept⟩, hid⟩

theorem exists_entry_iff (ing : Ingredient) (hk : Keyed shop) (h : Reordered shop shop₁) :
    (∃ entry, catalogProduct settings (latestPrices settings shop retailerId) ing (productsOf shop₁ ingredientId) =
      some entry) ↔ ∃ row ∈ rowsOf shop ingredientId, Priced settings shop retailerId row.1.productId := by
  rw [exists_catalogProduct_iff, productsOf_eq]
  simp only [exists_latestPrices_iff_priced, List.mem_map, List.mem_insertionSort,
    (rowsOf_reordered hk h ingredientId).mem_iff.symm]
  constructor
  · rintro ⟨product, ⟨row, hrow, rfl⟩, hpriced⟩
    refine ⟨row, hrow, ?_⟩
    rw [← key_of_row? (mem_rowsOf.mp hrow).2.2.2.1]
    exact hpriced
  · rintro ⟨row, hrow, hpriced⟩
    refine ⟨row.2, ⟨row, hrow, rfl⟩, ?_⟩
    rw [key_of_row? (mem_rowsOf.mp hrow).2.2.2.1]
    exact hpriced

/-- Two orders show an ingredient with a price as the same entry. -/
theorem OrderFree.entry (hfree : OrderFree py settings shop retailerId) (hk : Keyed shop) (h₁ : Reordered shop shop₁)
    (h₂ : Reordered shop shop₂) (hing : row? (·.id) shop.ingredients ingredientId = some ing)
    {row : IngredientProductMapping × Product} (hrow : row ∈ rowsOf shop ingredientId)
    (hpriced : Priced settings shop retailerId row.1.productId) :
    ∃ entry entry',
      catalogProduct settings (latestPrices settings shop retailerId) ing (productsOf shop₁ ingredientId) = some entry ∧
      catalogProduct settings (latestPrices settings shop retailerId) ing (productsOf shop₂ ingredientId) = some entry' ∧
      SameEntry entry entry' := by
  obtain ⟨entry, hentry⟩ := (exists_entry_iff ing hk h₁).mpr ⟨row, hrow, hpriced⟩
  obtain ⟨entry', hentry'⟩ := (exists_entry_iff ing hk h₂).mpr ⟨row, hrow, hpriced⟩
  refine ⟨entry, entry', hentry, hentry', ?_⟩
  have hcatalog := (hfree shop₁ shop₂ h₁ h₂).1
  rw [buildCatalog_eq, buildCatalog_eq, ← ingredientIds_reordered hk h₁, ← ingredientIds_reordered hk h₂,
    ← latestPrices_reordered hk h₁, ← latestPrices_reordered hk h₂] at hcatalog
  simp only [row?_ingredients hk h₁, row?_ingredients hk h₂] at hcatalog
  have haligned : ∀ k ∈ ((mappedProducts shop).map (·.1.ingredientId)).eraseDups,
      (∃ e, ((row? (·.id) shop.ingredients k).bind fun ingredient =>
        catalogProduct settings (latestPrices settings shop retailerId) ingredient (productsOf shop₁ k)) = some e) ↔
      ∃ e, ((row? (·.id) shop.ingredients k).bind fun ingredient =>
        catalogProduct settings (latestPrices settings shop retailerId) ingredient (productsOf shop₂ k)) = some e := by
    intro k _
    cases row? (·.id) shop.ingredients k with
    | none => simp only [Option.bind_none, reduceCtorEq, exists_false]
    | some ingredient => exact (exists_entry_iff ingredient hk h₁).trans (exists_entry_iff ingredient hk h₂).symm
  refine (Ties.forall₂_filterMap_iff haligned).mp hcatalog ingredientId
    (List.mem_eraseDups.mpr (ingredientId_mem hrow)) entry ?_ entry' ?_
  · rw [hing]
    exact hentry
  · rw [hing]
    exact hentry'

theorem rowsOf_nodup (hk : Keyed shop) : (rowsOf shop ingredientId).Nodup := by
  refine (hk.mappings.of_map.filterMap fun m m' row hrow hrow' => ?_).filter _
  have hfst : ∀ {m : IngredientProductMapping} {row : IngredientProductMapping × Product},
      row ∈ mappedRow shop m → row.1 = m := by
    intro m row h
    obtain ⟨product, -, hif⟩ := Option.bind_eq_some_iff.mp h
    rw [Option.ite_none_right_eq_some] at hif
    exact (congrArg Prod.fst (Option.some.inj hif.2)).symm
  rw [← hfst hrow, ← hfst hrow']

theorem productIds_nodup (hk : Keyed shop) (h : Reordered shop shop₁) :
    ((productsOf shop₁ ingredientId).map fun p => toString p.id).Nodup := by
  have hperm := ((List.perm_insertionSort byRank _).trans (rowsOf_reordered hk h ingredientId).symm).map
    fun row => toString row.2.id
  rw [productsOf_eq, List.map_map]
  refine hperm.nodup_iff.mpr ((rowsOf_nodup hk).map_on fun a ha b hb heq => ?_)
  refine row_ext hk ha hb ?_
  rw [← key_of_row? (mem_rowsOf.mp ha).2.2.2.1, ← key_of_row? (mem_rowsOf.mp hb).2.2.2.1]
  exact Nat.repr_inj.mp heq

theorem sublist_productsOf (rest : List IngredientProductMapping) (hrow₁ : (m₁, p₁) ∈ rowsOf shop ingredientId)
    (hrow₂ : (m₂, p₂) ∈ rowsOf shop ingredientId) (hrank : m₁.preferenceRank = m₂.preferenceRank) :
    [p₁, p₂].Sublist (productsOf (withMappings shop (m₁ :: m₂ :: rest)) ingredientId) := by
  rw [productsOf_eq, rowsOf_withMappings_cons _ hrow₁, rowsOf_withMappings_cons _ hrow₂]
  have hbefore : byRank (m₁, p₁) (m₂, p₂) :=
    Or.inr ⟨(mem_rowsOf.mp hrow₁).2.2.1.trans (mem_rowsOf.mp hrow₂).2.2.1.symm, hrank ▸ rankUpTo_refl _⟩
  have hpair : [(m₁, p₁), (m₂, p₂)].Sublist
      ((m₁, p₁) :: (m₂, p₂) :: rowsOf (withMappings shop rest) ingredientId) :=
    ((List.nil_sublist _).cons_cons _).cons_cons _
  exact (List.pair_sublist_insertionSort hbefore hpair).map (·.2)

theorem toString_ne (hrow₁ : (m₁, p₁) ∈ rowsOf shop ingredientId) (hrow₂ : (m₂, p₂) ∈ rowsOf shop ingredientId)
    (hne : m₁.productId ≠ m₂.productId) : toString p₁.id ≠ toString p₂.id := by
  intro heq
  have hid : p₁.id = p₂.id := Nat.repr_inj.mp heq
  rw [key_of_row? (mem_rowsOf.mp hrow₁).2.2.2.1, key_of_row? (mem_rowsOf.mp hrow₂).2.2.2.1] at hid
  exact hne hid

theorem isSome_latestPrices (hrow : (m₁, p₁) ∈ rowsOf shop ingredientId)
    (hprice : Priced settings shop retailerId m₁.productId) :
    ((latestPrices settings shop retailerId).get? p₁.id).isSome = true := by
  rw [Option.isSome_iff_exists, exists_latestPrices_iff_priced, key_of_row? (mem_rowsOf.mp hrow).2.2.2.1]
  exact hprice

theorem sublist_pricedIds {products : List Product} {latest : Dict Nat ProductPrice} (h : [p₁, p₂].Sublist products)
    (h₁ : (latest.get? p₁.id).isSome = true) (h₂ : (latest.get? p₂.id).isSome = true) :
    [toString p₁.id, toString p₂.id].Sublist
      ((products.filter fun p => (latest.get? p.id).isSome).map fun p => toString p.id) := by
  have hkeep : [p₁, p₂].filter (fun p => (latest.get? p.id).isSome) = [p₁, p₂] :=
    List.filter_eq_self.mpr (List.forall_mem_cons.mpr ⟨h₁, List.forall_mem_singleton.mpr h₂⟩)
  have hfilter := h.filter fun p => (latest.get? p.id).isSome
  rw [hkeep] at hfilter
  exact hfilter.map fun p => toString p.id

theorem OrderFree.priced (hfree : OrderFree py settings shop retailerId) (hk : Keyed shop) (htied : Tied shop m₁ m₂) :
    ¬(Priced settings shop retailerId m₁.productId ∧ Priced settings shop retailerId m₂.productId) := by
  rintro ⟨hprice₁, hprice₂⟩
  obtain ⟨p₁, hrow₁⟩ := exists_mem_rowsOf htied.left
  obtain ⟨p₂, hrow₂⟩ := exists_mem_rowsOf htied.right
  rw [← htied.ingredient] at hrow₂
  obtain ⟨ing, hing⟩ := htied.left.2.2.1
  obtain ⟨rest, h₁, h₂⟩ := exists_orders htied.left.1 htied.right.1 fun heq => htied.products (congrArg _ heq)
  obtain ⟨entry, entry', hentry, hentry', hsame⟩ := hfree.entry hk h₁ h₂ hing hrow₁ hprice₁
  have hsome₁ := isSome_latestPrices hrow₁ hprice₁
  have hsome₂ := isSome_latestPrices hrow₂ hprice₂
  have hforth := sublist_pricedIds (sublist_productsOf rest hrow₁ hrow₂ htied.rank) hsome₁ hsome₂
  have hback := sublist_pricedIds (sublist_productsOf rest hrow₂ hrow₁ htied.rank.symm) hsome₂ hsome₁
  rw [← catalogProduct_packages hentry] at hforth
  rw [← catalogProduct_packages hentry', ← hsame.packages] at hback
  refine Ties.not_both_orders (toString_ne hrow₁ hrow₂ htied.products) ?_ hforth hback
  rw [catalogProduct_packages hentry]
  exact (productIds_nodup hk h₁).sublist (List.filter_sublist.map _)

theorem head?_productsOf {rest : List IngredientProductMapping} (hk : Keyed shop)
    (hrow : (m₁, p₁) ∈ rowsOf shop ingredientId) (hperm : Reordered shop (withMappings shop (m₁ :: rest)))
    (hbest : ∀ row ∈ rowsOf shop ingredientId, rankUpTo m₁.preferenceRank row.1.preferenceRank) :
    (productsOf (withMappings shop (m₁ :: rest)) ingredientId).head? = some p₁ := by
  have hcons := rowsOf_withMappings_cons rest hrow
  have hfirst : ∀ row ∈ rowsOf (withMappings shop rest) ingredientId, byRank (m₁, p₁) row := by
    intro row hmem
    have hmem' : row ∈ rowsOf shop ingredientId := by
      rw [(rowsOf_reordered hk hperm ingredientId).mem_iff, hcons]
      exact List.mem_cons_of_mem _ hmem
    exact Or.inr ⟨(mem_rowsOf.mp hrow).2.2.1.trans (mem_rowsOf.mp hmem').2.2.1.symm, hbest row hmem'⟩
  rw [productsOf_eq, hcons, List.insertionSort_cons,
    Ties.orderedInsert_of_forall_rel fun row h => hfirst row ((List.mem_insertionSort byRank).mp h)]
  rfl

theorem OrderFree.first (hfree : OrderFree py settings shop retailerId) (hk : Keyed shop) (htied : Tied shop m₁ m₂)
    (hpriced : ∃ m, Maps shop m ∧ m.ingredientId = m₁.ingredientId ∧ Priced settings shop retailerId m.productId) :
    ∃ m, Maps shop m ∧ m.ingredientId = m₁.ingredientId ∧ ¬rankUpTo m₁.preferenceRank m.preferenceRank := by
  by_contra hnone
  obtain ⟨p₁, hrow₁⟩ := exists_mem_rowsOf htied.left
  obtain ⟨p₂, hrow₂⟩ := exists_mem_rowsOf htied.right
  rw [← htied.ingredient] at hrow₂
  obtain ⟨ing, hing⟩ := htied.left.2.2.1
  have hbest : ∀ row ∈ rowsOf shop m₁.ingredientId, rankUpTo m₁.preferenceRank row.1.preferenceRank := by
    intro row hrow
    by_contra hworse
    exact hnone ⟨row.1, maps_of_mem_rowsOf hing hrow, (mem_rowsOf.mp hrow).2.2.1, hworse⟩
  obtain ⟨m, hm, hid, hprice⟩ := hpriced
  obtain ⟨p, hrow⟩ := exists_mem_rowsOf hm
  rw [hid] at hrow
  obtain ⟨rest, h₁, h₂⟩ := exists_orders htied.left.1 htied.right.1 fun heq => htied.products (congrArg _ heq)
  obtain ⟨entry, entry', hentry, hentry', hsame⟩ := hfree.entry hk h₁ h₂ hing hrow hprice
  obtain ⟨first, hfirst, hname⟩ := catalogProduct_productId hentry
  obtain ⟨first', hfirst', hname'⟩ := catalogProduct_productId hentry'
  rw [head?_productsOf hk hrow₁ h₁ hbest, Option.some.injEq] at hfirst
  rw [head?_productsOf hk hrow₂ h₂ (htied.rank ▸ hbest), Option.some.injEq] at hfirst'
  subst hfirst hfirst'
  exact toString_ne hrow₁ hrow₂ htied.products (hname.symm.trans (hsame.productId.trans hname'))

/-- Two net contents of an ingredient come first in one order and in the other. -/
theorem OrderFree.contents (hfree : OrderFree py settings shop retailerId) {row row' : NetContent}
    (hrow : row ∈ netContents shop) (hrow' : row' ∈ netContents shop) {c c' : IngredientConversionDTO}
    (hc : netConversion py row = some c) (hc' : netConversion py row' = some c')
    (hname : c.canonicalName = c'.canonicalName) : c = c' := by
  obtain ⟨m, hm, hcontent⟩ := List.mem_filterMap.mp hrow
  obtain ⟨m', hm', hcontent'⟩ := List.mem_filterMap.mp hrow'
  by_cases hne : m = m'
  · subst hne
    rw [hcontent] at hcontent'
    cases hcontent'
    exact Option.some.inj (hc.symm.trans hc')
  obtain ⟨rest, h₁, h₂⟩ := exists_orders hm hm' hne
  have hsame := (hfree _ _ h₁ h₂).2 c.canonicalName
  have hfirst : ∀ {m : IngredientProductMapping} {row : NetContent} {c : IngredientConversionDTO}
      (rest : List IngredientProductMapping), netContentOf shop m = some row → netConversion py row = some c →
        (Grouping.group (·.canonicalName) ((netContents (withMappings shop (m :: rest))).filterMap (netConversion py))
          c.canonicalName).head?.toList = [c] := by
    intro m row c rest hrow hc
    have hcons : netContents (withMappings shop (m :: rest)) = row :: netContents (withMappings shop rest) :=
      List.filterMap_cons_some hrow
    rw [hcons, List.filterMap_cons_some hc, Grouping.group_cons_self]
    rfl
  rw [group_planConversions, group_planConversions, hfirst _ hcontent hc, hname, hfirst _ hcontent' hc'] at hsame
  exact List.singleton_inj.mp (List.append_inj' hsame rfl).2

end Shown

/-- The catalogue and the conversions are functions of the tables exactly where no tie shows. -/
theorem orderFree_iff {py : Runtime} {settings : Settings} {shop : Shop} {retailerId : Option Nat} (hk : Keyed shop) :
    OrderFree py settings shop retailerId ↔ Untied py settings shop retailerId := by
  constructor
  · intro hfree
    exact ⟨fun _ _ htied => hfree.priced hk htied, fun _ _ htied => hfree.first hk htied,
      fun _ hrow _ hrow' _ _ => hfree.contents hrow hrow'⟩
  · intro hu shop₁ shop₂ h₁ h₂
    refine ⟨?_, fun name => ((hu.conversions hk h₁) name).symm.trans ((hu.conversions hk h₂) name)⟩
    rw [hu.catalog hk h₁, hu.catalog hk h₂]
    exact List.forall₂_same.mpr fun entry _ => ⟨rfl, rfl, rfl, rfl, rfl, rfl, fun _ => Iff.rfl⟩

/-! Bread of two brands, neither of them preferred, both with a price. -/

def breadPrice (productId : Nat) (amount : ℚ) : ProductPrice where
  id := productId
  retailerId := 1
  storeId := 1
  productId := productId
  amount := amount
  packageQuantity := 500
  packageUnit := "g"
  sourceType := "demo"
  sourceName := "demo"
  observedAt := 0

def breadShop : Shop where
  ingredients := [{ id := 1, canonicalName := "pan", displayName := "Pan" }]
  products := [{ id := 1 }, { id := 2 }]
  mappings := [{ ingredientId := 1, productId := 1 }, { ingredientId := 1, productId := 2 }]
  prices := [breadPrice 1 1, breadPrice 2 3]

theorem breadShop_keyed : Keyed breadShop where
  ingredients := by decide
  names := by decide
  products := by decide
  mappings := by decide
  prices := by decide
  variants := by decide

theorem orderFree_iff_bread :
    OrderFree (Runtime.replay []) {} breadShop (some 1) ↔ Untied (Runtime.replay []) {} breadShop (some 1) :=
  orderFree_iff breadShop_keyed

/-- The bread of the entry depends on the order of the table. -/
theorem not_orderFree_bread : ¬OrderFree (Runtime.replay []) {} breadShop (some 1) := by
  intro hfree
  have htied : Tied breadShop { ingredientId := 1, productId := 1 } { ingredientId := 1, productId := 2 } :=
    ⟨⟨by decide, rfl, ⟨_, rfl⟩, _, rfl, rfl⟩, ⟨by decide, rfl, ⟨_, rfl⟩, _, rfl, rfl⟩, rfl, rfl, by decide⟩
  have hprices : chainPrices {} breadShop 1 = [breadPrice 1 1, breadPrice 2 3] := by decide +kernel
  refine hfree.priced breadShop_keyed htied ⟨⟨1, rfl, breadPrice 1 1, ?_, rfl⟩, ⟨1, rfl, breadPrice 2 3, ?_, rfl⟩⟩
  · rw [hprices]
    exact List.mem_cons_self
  · rw [hprices]
    exact List.mem_cons_of_mem _ List.mem_cons_self

end CestaPlan.Catalog
