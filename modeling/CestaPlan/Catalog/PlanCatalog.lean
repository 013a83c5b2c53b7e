import CestaPlan.Library.Calendar
import CestaPlan.Library.Text
import CestaPlan.Library.Updates
import CestaPlan.Engine.Contracts
import Mathlib.Algebra.Order.Ring.Rat
import Mathlib.Data.List.Sort

/-! The catalogue of a plan (`services/planning_context.py`) and the price that a grocery line keeps
    (`services/plan_service.py`). -/

namespace CestaPlan.Catalog
open Engine Updates
open Calendar (Instant dayOf)

/-! ### The tables -/

structure Store where
  id : Nat
  retailerId : Nat
  postalCode : String
deriving DecidableEq

structure Ingredient where
  id : Nat
  canonicalName : String
  displayName : String
  categoryCode : Option String := none
  defaultUnit : Option String := none
  densityGPerMl : Option ℚ := none
  allergenCodes : Option (List String) := none
deriving DecidableEq

structure ProductNutrition where
  energyKcal : Option ℚ := none
  proteinG : Option ℚ := none
  carbohydrateG : Option ℚ := none
  fatG : Option ℚ := none
  allergens : Option (List String) := none
deriving DecidableEq

structure Product where
  id : Nat
  retailerId : Option Nat := none
  deletedAt : Option Instant := none
  nutrition : Option ProductNutrition := none
deriving DecidableEq

structure IngredientProductMapping where
  ingredientId : Nat
  productId : Nat
  productVariantId : Option Nat := none
  preferenceRank : Option Int := none
  isActive : Bool := true
deriving DecidableEq

structure ProductVariant where
  id : Nat
  netContentQuantity : Option ℚ := none
  netContentUnit : Option String := none
deriving DecidableEq

/-- An observation of the price of a product in a store. The history only grows. -/
structure ProductPrice where
  id : Nat
  retailerId : Nat
  storeId : Nat
  productId : Nat
  amount : ℚ
  packageQuantity : ℚ
  packageUnit : String
  unitPrice : Option ℚ := none
  availability : Option Availability := none
  sourceType : String
  sourceName : String
  observedAt : Instant
  expiresAt : Option Instant := none
  isSynthetic : Bool := false
deriving DecidableEq

structure Shop where
  stores : List Store := []
  ingredients : List Ingredient := []
  products : List Product := []
  mappings : List IngredientProductMapping := []
  prices : List ProductPrice := []
  variants : List ProductVariant := []

structure Settings where
  mercadonaPostalCode : String := ""
  planPriceMaxAgeDays : Int := 45

/-! ### The latest prices -/

section Prices
variable (settings : Settings) (shop : Shop)

/-- `zone_store_ids`. -/
def zoneStoreIds (retailerId : Nat) : List Nat :=
  let postal := Text.strip settings.mercadonaPostalCode
  if postal = "" then []
  else (shop.stores.filter fun s => s.retailerId = retailerId && s.postalCode = postal).map (·.id)

/-- The query of a chain's prices. No price is without a store. -/
def chainPrices (retailerId : Nat) : List ProductPrice :=
  let zone := zoneStoreIds settings shop retailerId
  shop.prices.filter fun p => p.retailerId = retailerId && (zone.isEmpty || zone.contains p.storeId)

/-- `ORDER BY product_id, observed_at DESC, id DESC`. -/
def newestFirst (a b : ProductPrice) : Prop :=
  a.productId < b.productId ∨ (a.productId = b.productId ∧
    (b.observedAt < a.observedAt ∨ (a.observedAt = b.observedAt ∧ b.id ≤ a.id)))

instance : DecidableRel newestFirst := fun _ _ => inferInstanceAs (Decidable (_ ∨ _))

/-- The first row of each product. -/
def firstPerProduct (rows : List ProductPrice) : Dict Nat ProductPrice :=
  (rows.insertionSort newestFirst).foldl (fun latest price => latest.setDefault price.productId price) Dict.empty

/-- `_latest_prices`. -/
def latestPrices : Option Nat → Dict Nat ProductPrice
  | none => Dict.empty
  | some retailerId => firstPerProduct (chainPrices settings shop retailerId)

/-- `_latest_price_by_product`. -/
def latestPriceByProduct : Option Nat → Dict Nat ProductPrice
  | none => firstPerProduct (shop.prices.filter (!·.isSynthetic))
  | some retailerId => firstPerProduct (chainPrices settings shop retailerId)

end Prices

/-! ### The catalogue -/

section Catalogue
variable (settings : Settings) (shop : Shop)

/-- `_package_option`. -/
def packageOption (product : Product) (price : ProductPrice) (priceMaxAgeDays : Int) : PackageOptionDTO :=
  let observed := dayOf price.observedAt
  -- A price without an expiry grows stale with its age.
  let expires := match price.expiresAt with
    | some t => some (dayOf t)
    | none => if 0 < priceMaxAgeDays then some (observed + priceMaxAgeDays) else none
  { productId := toString product.id
    packageQuantity := price.packageQuantity
    packageUnit := price.packageUnit
    amount := price.amount
    availability := price.availability.getD .unknown
    sourceType := price.sourceType
    sourceName := price.sourceName
    observedAt := some observed
    expiresAt := expires
    hasPrice := true }

def nutritionDTO (nutr : ProductNutrition) : NutritionDTO where
  kcal := nutr.energyKcal
  proteinG := nutr.proteinG
  carbsG := nutr.carbohydrateG
  fatG := nutr.fatG

/-- A mapping without a rank comes last. -/
def rankUpTo : Option Int → Option Int → Prop
  | _, none => True
  | none, some _ => False
  | some a, some b => a ≤ b

instance : DecidableRel rankUpTo := fun a b => by
  cases a <;> cases b <;> unfold rankUpTo <;> infer_instance

/-- `ORDER BY ingredient_id, preference_rank`. -/
def byRank (a b : IngredientProductMapping × Product) : Prop :=
  a.1.ingredientId < b.1.ingredientId ∨
    (a.1.ingredientId = b.1.ingredientId ∧ rankUpTo a.1.preferenceRank b.1.preferenceRank)

instance : DecidableRel byRank := fun _ _ => inferInstanceAs (Decidable (_ ∨ _))

/-- The active mappings whose product is not deleted. -/
def mappedProducts : List (IngredientProductMapping × Product) :=
  (shop.mappings.filterMap fun m => do
    let product ← row? (·.id) shop.products m.productId
    if m.isActive && product.deletedAt.isNone then some (m, product) else none).insertionSort byRank

def productsByIngredient : Dict Nat (List Product) :=
  (mappedProducts shop).foldl (fun d row => d.set row.1.ingredientId (d.getD row.1.ingredientId [] ++ [row.2]))
    Dict.empty

/-- The entry of an ingredient in the catalogue: the formats of its products, under the first of them. -/
def catalogProduct (latest : Dict Nat ProductPrice) (ingredient : Ingredient) (products : List Product) :
    Option CatalogProductDTO :=
  let priced := products.filterMap fun product => (latest.get? product.id).map fun price => (product, price)
  let nutritions := priced.filterMap (·.1.nutrition)
  if priced.isEmpty then none
  else products.head?.map fun first =>
    { productId := toString first.id
      canonicalName := ingredient.canonicalName
      displayName := ingredient.displayName
      category := if ingredient.categoryCode.getD "" = "" then "uncategorized" else ingredient.categoryCode.getD ""
      packages := priced.map fun (product, price) => packageOption product price settings.planPriceMaxAgeDays
      nutrition := nutritions.head?.map nutritionDTO
      allergens := nutritions.foldl (fun codes nutr => codes ∪ nutr.allergens.getD []) (ingredient.allergenCodes.getD []) }

/-- `_build_catalog`. -/
def buildCatalog (retailerId : Option Nat) : List CatalogProductDTO :=
  let latest := latestPrices settings shop retailerId
  (productsByIngredient shop).entries.filterMap fun entry =>
    (row? (·.id) shop.ingredients entry.1).bind fun ingredient => catalogProduct settings latest ingredient entry.2

end Catalogue

/-! ### The price of a line -/

/-- What a grocery line keeps of its price: the product, the row of the price, and the price of a unit. -/
structure Provenance where
  productId : Option Nat
  priceId : Option Nat
  unitPrice : Option ℚ
deriving DecidableEq

structure LineResolver where
  ingredientId : Dict String Nat := Dict.empty
  byPackage : Dict (String × String × ℚ) Provenance := Dict.empty
  byProduct : Dict Nat Provenance := Dict.empty

def provenanceOf (product : Product) (price : ProductPrice) : Provenance where
  productId := some product.id
  priceId := some price.id
  unitPrice := price.unitPrice

def LineResolver.add (latest : Dict Nat ProductPrice) (resolver : LineResolver) (row : Ingredient × Product) :
    LineResolver :=
  let ingredientId := resolver.ingredientId.setDefault row.1.canonicalName row.1.id
  match latest.get? row.2.id with
  | none => { resolver with ingredientId := ingredientId }
  | some price =>
    { ingredientId := ingredientId
      byProduct := resolver.byProduct.setDefault row.2.id (provenanceOf row.2 price)
      byPackage := resolver.byPackage.setDefault (row.1.canonicalName, price.packageUnit, price.packageQuantity)
        (provenanceOf row.2 price) }

/-- The ingredient and the product of each active mapping, in the order in which the query returns the mappings. -/
def resolverRows (shop : Shop) (scan : List IngredientProductMapping) : List (Ingredient × Product) :=
  scan.filterMap fun m => do
    let ingredient ← row? (·.id) shop.ingredients m.ingredientId
    let product ← row? (·.id) shop.products m.productId
    if m.isActive then some (ingredient, product) else none

def lineResolver (settings : Settings) (shop : Shop) (scan : List IngredientProductMapping) (retailerId : Option Nat) :
    LineResolver :=
  (resolverRows shop scan).foldl (LineResolver.add (latestPriceByProduct settings shop retailerId)) {}

/-- `resolve`: the product of the line, then any product of its format, then the product without a price. -/
def LineResolver.resolve (resolver : LineResolver) (line : GroceryLineDTO) : Provenance :=
  let product := line.productId.bind String.toNat?
  let package := do
    let quantity ← line.packageQuantity
    let unit ← line.packageUnit
    resolver.byPackage.get? (line.canonicalName, unit, quantity)
  match product.bind resolver.byProduct.get? with
  | some exact => exact
  | none => package.getD { productId := product, priceId := none, unitPrice := none }

end CestaPlan.Catalog
