import CestaPlan.Library.Buckets
import CestaPlan.Catalog.PlanCatalog

/-! The entries of the catalogue, one for each ingredient of which a mapped product has a price. -/

namespace CestaPlan.Catalog
open Engine Updates

section Entries
variable {settings : Settings} {shop : Shop} {latest : Dict Nat ProductPrice} {ingredient : Ingredient}
variable {products : List Product} {entry : CatalogProductDTO}

/-- An active mapping with its product, unless that is deleted. -/
def mappedRow (shop : Shop) (m : IngredientProductMapping) : Option (IngredientProductMapping × Product) := do
  let product ← row? (·.id) shop.products m.productId
  if m.isActive && product.deletedAt.isNone then some (m, product) else none

def mappedRows (shop : Shop) : List (IngredientProductMapping × Product) := shop.mappings.filterMap (mappedRow shop)

/-- The products of an ingredient, the preferred ones first. -/
def productsOf (shop : Shop) (ingredientId : Nat) : List Product :=
  (Grouping.group (·.1.ingredientId) (mappedProducts shop) ingredientId).map (·.2)

theorem mem_mappedRows {m : IngredientProductMapping} {product : Product} :
    (m, product) ∈ mappedRows shop ↔ m ∈ shop.mappings ∧ m.isActive = true ∧
      row? (·.id) shop.products m.productId = some product ∧ product.deletedAt = none := by
  rw [mappedRows, List.mem_filterMap]
  constructor
  · rintro ⟨m', hm', hrow⟩
    obtain ⟨product', hproduct, hif⟩ := Option.bind_eq_some_iff.mp hrow
    rw [Option.ite_none_right_eq_some, Bool.and_eq_true, Option.isNone_iff_eq_none] at hif
    obtain ⟨⟨hactive, hkept⟩, heq⟩ := hif
    obtain ⟨rfl, rfl⟩ := Prod.mk.inj (Option.some.inj heq)
    exact ⟨hm', hactive, hproduct, hkept⟩
  · rintro ⟨hm, hactive, hproduct, hkept⟩
    exact ⟨m, hm, by simp [mappedRow, hproduct, hactive, hkept]⟩

theorem mappedProducts_eq : mappedProducts shop = (mappedRows shop).insertionSort byRank := rfl

theorem mem_mappedProducts {m : IngredientProductMapping} {product : Product} :
    (m, product) ∈ mappedProducts shop ↔ m ∈ shop.mappings ∧ m.isActive = true ∧
      row? (·.id) shop.products m.productId = some product ∧ product.deletedAt = none := by
  rw [mappedProducts_eq, List.mem_insertionSort, mem_mappedRows]

theorem mem_productsOf {ingredientId : Nat} {product : Product} : product ∈ productsOf shop ingredientId ↔
    ∃ m ∈ shop.mappings, m.isActive = true ∧ m.ingredientId = ingredientId ∧
      row? (·.id) shop.products m.productId = some product ∧ product.deletedAt = none := by
  simp only [productsOf, List.mem_map, Grouping.mem_group, Prod.exists, mem_mappedProducts]
  constructor
  · rintro ⟨m, product', ⟨⟨hm, hactive, hproduct, hkept⟩, hid⟩, rfl⟩
    exact ⟨m, hm, hactive, hid, hproduct, hkept⟩
  · rintro ⟨m, hm, hactive, hid, hproduct, hkept⟩
    exact ⟨m, product, ⟨⟨hm, hactive, hproduct, hkept⟩, hid⟩, rfl⟩

theorem buildCatalog_eq {retailerId : Option Nat} : buildCatalog settings shop retailerId =
    ((mappedProducts shop).map (·.1.ingredientId)).eraseDups.filterMap fun ingredientId =>
      (row? (·.id) shop.ingredients ingredientId).bind fun ingredient =>
        catalogProduct settings (latestPrices settings shop retailerId) ingredient (productsOf shop ingredientId) := by
  have hentries : (productsByIngredient shop).entries =
      ((mappedProducts shop).map (·.1.ingredientId)).eraseDups.map fun k => (k, productsOf shop k) :=
    Buckets.entries_buckets
  unfold buildCatalog
  rw [hentries, List.filterMap_map]
  rfl

theorem catalogProduct_canonicalName (h : catalogProduct settings latest ingredient products = some entry) :
    entry.canonicalName = ingredient.canonicalName := by
  simp only [catalogProduct] at h
  split at h
  · cases h
  · obtain ⟨first, -, rfl⟩ := Option.map_eq_some_iff.mp h
    rfl

theorem exists_catalogProduct_iff : (∃ entry, catalogProduct settings latest ingredient products = some entry) ↔
    ∃ product ∈ products, ∃ price, latest.get? product.id = some price := by
  simp only [catalogProduct]
  split
  · next hnone =>
    refine iff_of_false (by rintro ⟨entry, h⟩; cases h) ?_
    rintro ⟨product, hproduct, price, hprice⟩
    have hempty := List.filterMap_eq_nil_iff.mp (List.isEmpty_iff.mp hnone) product hproduct
    rw [hprice] at hempty
    cases hempty
  · next hsome =>
    rw [List.isEmpty_iff, List.filterMap_eq_nil_iff, not_forall] at hsome
    obtain ⟨product, hproduct⟩ := hsome
    rw [not_forall] at hproduct
    obtain ⟨hmem, hprice⟩ := hproduct
    obtain ⟨pair, hpair⟩ := Option.ne_none_iff_exists'.mp hprice
    obtain ⟨price, hprice, -⟩ := Option.map_eq_some_iff.mp hpair
    obtain ⟨first, hfirst⟩ : ∃ first, products.head? = some first :=
      Option.ne_none_iff_exists'.mp fun hnil => List.ne_nil_of_mem hmem (List.head?_eq_none_iff.mp hnil)
    rw [hfirst]
    exact iff_of_true ⟨_, rfl⟩ ⟨product, hmem, price, hprice⟩

theorem catalogProduct_congr {products' : List Product} (hhead : products.head? = products'.head?)
    (hpriced : products.filter (fun p => (latest.get? p.id).isSome) = products'.filter fun p => (latest.get? p.id).isSome) :
    catalogProduct settings latest ingredient products = catalogProduct settings latest ingredient products' := by
  have hrows : ∀ products : List Product,
      products.filterMap (fun product => (latest.get? product.id).map fun price => (product, price)) =
        (products.filter fun p => (latest.get? p.id).isSome).filterMap fun product =>
          (latest.get? product.id).map fun price => (product, price) := fun products => by
    rw [List.filterMap_filter]
    refine List.filterMap_congr fun product _ => ?_
    cases latest.get? product.id <;> rfl
  simp only [catalogProduct, hrows products, hrows products', hhead, hpriced]

theorem catalogProduct_productId (h : catalogProduct settings latest ingredient products = some entry) :
    ∃ first, products.head? = some first ∧ entry.productId = toString first.id := by
  simp only [catalogProduct] at h
  split at h
  · cases h
  · obtain ⟨first, hfirst, rfl⟩ := Option.map_eq_some_iff.mp h
    exact ⟨first, hfirst, rfl⟩

theorem map_priced_id : (products.filterMap fun product => (latest.get? product.id).map fun price => (product, price)).map
    (fun row => toString row.1.id) = (products.filter fun p => (latest.get? p.id).isSome).map fun p => toString p.id := by
  induction products with
  | nil => rfl
  | cons product products ih =>
    cases hprice : latest.get? product.id with
    | none => simpa [hprice] using ih
    | some price => simpa [hprice] using ih

theorem catalogProduct_packages (h : catalogProduct settings latest ingredient products = some entry) :
    entry.packages.map (·.productId) =
      (products.filter fun p => (latest.get? p.id).isSome).map fun p => toString p.id := by
  simp only [catalogProduct] at h
  split at h
  · cases h
  · obtain ⟨first, -, rfl⟩ := Option.map_eq_some_iff.mp h
    rw [← map_priced_id, List.map_map]
    rfl

theorem exists_latestPrices_iff {retailerId productId : Nat} :
    (∃ price, (latestPrices settings shop (some retailerId)).get? productId = some price) ↔
      ∃ p ∈ chainPrices settings shop retailerId, p.productId = productId := by
  rw [latestPrices, firstPerProduct, Dict.get?_foldl_setDefault, Dict.get?_empty, Option.none_or,
    ← Option.isSome_iff_exists, Option.isSome_map, List.find?_isSome]
  simp only [List.mem_insertionSort, decide_eq_true_eq]

theorem mem_buildCatalog_names {retailerId : Nat} {name : String} :
    name ∈ (buildCatalog settings shop (some retailerId)).map (·.canonicalName) ↔
      ∃ m ∈ shop.mappings, m.isActive = true ∧
        (∃ ing, row? (·.id) shop.ingredients m.ingredientId = some ing ∧ ing.canonicalName = name) ∧
        (∃ product, row? (·.id) shop.products m.productId = some product ∧ product.deletedAt = none) ∧
        ∃ p ∈ chainPrices settings shop retailerId, p.productId = m.productId := by
  simp only [buildCatalog_eq, List.mem_map, List.mem_filterMap, List.mem_eraseDups]
  constructor
  · rintro ⟨entry, ⟨ingredientId, -, hbind⟩, rfl⟩
    obtain ⟨ing, hing, hentry⟩ := Option.bind_eq_some_iff.mp hbind
    obtain ⟨product, hproduct, hprice⟩ := exists_catalogProduct_iff.mp ⟨entry, hentry⟩
    obtain ⟨m, hm, hactive, rfl, hrow, hkept⟩ := mem_productsOf.mp hproduct
    obtain ⟨p, hp, hid⟩ := exists_latestPrices_iff.mp hprice
    exact ⟨m, hm, hactive, ⟨ing, hing, (catalogProduct_canonicalName hentry).symm⟩, ⟨product, hrow, hkept⟩, p, hp,
      hid.trans (key_of_row? hrow)⟩
  · rintro ⟨m, hm, hactive, ⟨ing, hing, rfl⟩, ⟨product, hrow, hkept⟩, p, hp, hid⟩
    have hprice := exists_latestPrices_iff.mpr ⟨p, hp, hid.trans (key_of_row? hrow).symm⟩
    obtain ⟨entry, hentry⟩ := exists_catalogProduct_iff.mpr
      ⟨product, mem_productsOf.mpr ⟨m, hm, hactive, rfl, hrow, hkept⟩, hprice⟩
    refine ⟨entry, ⟨m.ingredientId, ?_, ?_⟩, catalogProduct_canonicalName hentry⟩
    · exact ⟨(m, product), mem_mappedProducts.mpr ⟨hm, hactive, hrow, hkept⟩, rfl⟩
    · rw [hing]
      exact hentry

theorem buildCatalog_option {retailerId : Option Nat} {opt : PackageOptionDTO}
    (hentry : entry ∈ buildCatalog settings shop retailerId) (hopt : opt ∈ entry.packages) :
    ∃ product price, (latestPrices settings shop retailerId).get? product.id = some price ∧
      opt = packageOption product price settings.planPriceMaxAgeDays := by
  rw [buildCatalog_eq, List.mem_filterMap] at hentry
  obtain ⟨ingredientId, -, hbind⟩ := hentry
  obtain ⟨ingredient, -, hcatalog⟩ := Option.bind_eq_some_iff.mp hbind
  simp only [catalogProduct] at hcatalog
  split at hcatalog
  · cases hcatalog
  · obtain ⟨first, -, rfl⟩ := Option.map_eq_some_iff.mp hcatalog
    obtain ⟨row, hrow, rfl⟩ := List.mem_map.mp hopt
    obtain ⟨product, -, hpair⟩ := List.mem_filterMap.mp hrow
    obtain ⟨price, hprice, rfl⟩ := Option.map_eq_some_iff.mp hpair
    exact ⟨product, price, hprice, rfl⟩

end Entries
end CestaPlan.Catalog
