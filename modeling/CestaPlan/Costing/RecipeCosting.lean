import CestaPlan.Engine.Conversions
import CestaPlan.Ingestion.EggPacks
import CestaPlan.Library.DecimalContext
import CestaPlan.Library.Least
import CestaPlan.Prices.Fallback

/-! What a recipe costs at a provider (`services/recipe_costing.py`), over the staging prices.

    Amounts of money are quantized to cents line by line and then added up. A quantization raises where the digits do not fit into the
    decimal context, and then nothing is returned. -/

namespace CestaPlan.Costing
open Engine (Runtime Dimension toBase)
open Ingestion (eggPackSize)
open Regex (Alphabet)
open History (Db CurrentPrice Instant)
open Prices (ProductCostingMode gatedCurrentPrice)
open Numeric (quantize)

/-! ### The catalogue -/

/-- What a column with twelve digits, four of them decimals, holds. -/
structure Amount where
  tenThousandths : ℤ
  fits : |tenThousandths| < 10 ^ 12
deriving DecidableEq

def Amount.value (a : Amount) : ℚ := a.tenThousandths / 10 ^ 4

structure ProductVariant where
  id : Int
  productId : Option Int
  retailerId : Int
  externalProductId : Int
  displayName : String
  packageQuantity : Option Amount := none
  packageUnit : Option String := none
  sellUnit : Option String := none
  netContentQuantity : Option Amount := none
  netContentUnit : Option String := none
  variableWeight : Bool := false
  unitPrice : Option Amount := none
  unitPriceUnit : Option String := none
  active : Bool := true
deriving DecidableEq

structure IngredientProductMapping where
  ingredientId : Int
  productId : Int
  retailerId : Option Int
  isActive : Bool := true

structure ProviderIngredientMapping where
  ingredientId : Int
  providerCode : String
  normalizedProductId : Option Int
  active : Bool

structure Retailer where
  id : Int
  slug : String

/-- The tables that a costing reads, and the hours of the freshness bands. -/
structure Catalog where
  retailers : List Retailer := []
  ingredientMappings : List IngredientProductMapping := []
  providerMappings : List ProviderIngredientMapping := []
  variants : List ProductVariant := []
  prices : Db := {}
  thresholds : History.Thresholds := {}

structure RecipeIngredient where
  ingredientId : Int
  canonicalName : String
  displayName : Option String := none
  quantity : Amount
  unit : String
  optional : Bool := false

structure Recipe where
  id : Int
  title : String
  servings : Int
  ingredients : List RecipeIngredient

/-- `RETAILER_MATRIX`: the retailer of each provider. -/
def retailerSlugs : List (String × String) :=
  [("parsebot-dia", "dia"), ("parsebot-alcampo", "alcampo"), ("apify-mercadona", "mercadona"), ("parsebot-carrefour", "carrefour"),
    ("parsebot-lidl", "lidl"), ("parsebot-aldi", "aldi"), ("parsebot-deza", "deza"), ("open-prices", "open_prices"),
    ("demo", "mercaejemplo")]

def unitPriceCostedProviders : List String := ["parsebot-dia"]

/-! ### What a variant costs -/

structure Candidate where
  variant : ProductVariant
  price : ℚ
  priceScope : String
  fresh : Bool
  mode : ProductCostingMode

/-- The units to buy, what they hold in the base unit, and their cost. -/
structure Purchase where
  units : ℤ
  purchasedBase : ℚ
  lineCost : ℚ
deriving DecidableEq

section Variants
variable (py : Runtime) (u : Alphabet)

/-- `(text or "").lower()` -/
def lowered (text : Option String) : String := py.lower (text.getD "")

/-- `classify_variant_costing_mode`, of a variant with a price. -/
def classifyVariantCostingMode (v : ProductVariant) (providerCode : String) : ProductCostingMode :=
  let ncu := lowered py v.netContentUnit
  let upu := lowered py v.unitPriceUnit
  if v.netContentQuantity.isSome && ["g", "kg", "ml", "l"].contains ncu then .fixedPackage
  else if v.netContentQuantity.isSome && ["unit", "ud"].contains ncu then .discreteUnit
  else if lowered py v.sellUnit = "unit" then .discreteUnit
  else if v.variableWeight && v.unitPrice.isSome && lowered py v.sellUnit = "weight" && ["kg", "g"].contains upu then .variableWeight
  else if v.variableWeight && v.unitPrice.isSome && lowered py v.sellUnit = "volume" && ["l", "ml"].contains upu then .variableVolume
  else if unitPriceCostedProviders.contains providerCode && v.unitPrice.isSome then
    if ["kg", "g"].contains upu then .variableWeight
    else if ["l", "ml"].contains upu then .variableVolume
    else .unresolved
  else .unresolved

/-- The size of a count pack: the package quantity where it counts units, or else that of a package of eggs. -/
def countPackUnits (v : ProductVariant) : Option ℚ :=
  match v.packageQuantity.filter fun pq => 0 < pq.value && ["unit", "ud", "uds", ""].contains (lowered py v.packageUnit) with
  | some pq => some pq.value
  | none => (eggPackSize py u v.displayName).map (↑)

/-- A variant that could not be costed is a count pack where units are asked for and a pack can be told. -/
def costingMode (v : ProductVariant) (providerCode : String) (requiredDim : Dimension) : ProductCostingMode :=
  let mode := classifyVariantCostingMode py v providerCode
  let rescued := mode = .unresolved && requiredDim = .count && v.netContentQuantity.isNone && (countPackUnits py u v).isSome
  if rescued then .discreteUnit else mode

/-- At least one package, and as many as the quotient asks for. -/
def wholePackages (requiredBase packBase price : ℚ) : Purchase :=
  let packages := max ⌈py.div requiredBase packBase⌉ 1
  { units := packages
    purchasedBase := py.mul packages packBase
    lineCost := py.mul packages price }

def fixedPackageCost (requiredBase : ℚ) (requiredDim : Dimension) (packQuantity : Option Amount) (packUnit : Option String) (price : ℚ) :
    Option Purchase :=
  if price ≤ 0 then none
  else match packQuantity, packUnit with
    | some quantity, some unit => match toBase py quantity.value unit with
      | some (packBase, dim) => if dim ≠ requiredDim || packBase ≤ 0 then none else some (wholePackages py requiredBase packBase price)
      | none => none
    | _, _ => none

/-- What is sold by weight or volume, in whole grams or millilitres. -/
def measuredCost (requiredBase : ℚ) (requiredDim : Dimension) (cand : Candidate) : Option Purchase :=
  match cand.variant.unitPrice, cand.variant.unitPriceUnit with
  | some unitPrice, some unit => match toBase py 1 unit with
    | some (sell, dim) =>
      if dim ≠ requiredDim then none
      else
        let purchasedBase := max ⌈requiredBase⌉ 1
        let perUnitPrice := if cand.variant.variableWeight then cand.price else unitPrice.value
        if perUnitPrice ≤ 0 then none
        else some
          { units := purchasedBase
            purchasedBase := purchasedBase
            lineCost := py.mul purchasedBase (py.div perUnitPrice sell) }
    | none => none
  | _, _ => none

def costCandidate (requiredBase : ℚ) (requiredDim : Dimension) (cand : Candidate) : Option Purchase :=
  let v := cand.variant
  if cand.price ≤ 0 then none
  else match cand.mode with
    | .fixedPackage | .discreteUnit =>
      if v.netContentQuantity.isNone || v.netContentUnit.isNone then
        if cand.mode = .discreteUnit && requiredDim = .count then
          some (wholePackages py requiredBase ((countPackUnits py u v).getD 1) cand.price)
        else none
      else fixedPackageCost py requiredBase requiredDim v.netContentQuantity v.netContentUnit cand.price
    | .variableWeight | .variableVolume => measuredCost py requiredBase requiredDim cand
    | .unresolved => none

end Variants

/-! ### The lines -/

structure IngredientCostLine where
  ingredientId : Int
  canonicalName : String
  displayName : String
  requiredQuantity : ℚ
  requiredUnit : String
  optional : Bool
  costable : Bool := false
  reason : Option String := none
  providerCode : Option String := none
  productId : Option Int := none
  variantId : Option Int := none
  externalProductId : Option String := none
  productName : Option String := none
  costingMode : Option ProductCostingMode := none
  priceScope : Option String := none
  fresh : Option Bool := none
  packageQuantity : Option ℚ := none
  packageUnit : Option String := none
  packagePrice : Option ℚ := none
  unitsPurchased : Option ℚ := none
  purchasedQuantity : Option ℚ := none
  consumedQuantity : Option ℚ := none
  surplusQuantity : Option ℚ := none
  lineCost : Option ℚ := none
  consumedCost : Option ℚ := none
  surplusValue : Option ℚ := none
deriving DecidableEq

section Lines
variable (py : Runtime) (u : Alphabet) (catalog : Catalog) (retailerId : Int) (providerCode : String) (storeId : Option Int)
  (requiredScope : String) (now : Instant)

/-- `_eligible_products`: the products of an ingredient, in the order of the two queries. -/
def eligibleProducts (ingredientId : Int) : List Int :=
  (catalog.ingredientMappings.filter fun m => m.retailerId = some retailerId && m.isActive && m.ingredientId = ingredientId).map
      (·.productId) ++
    (catalog.providerMappings.filter fun m => m.providerCode = providerCode && m.active && m.ingredientId = ingredientId).filterMap
      (·.normalizedProductId)

/-- `_variants_by_product` -/
def variantsOf (productId : Int) : List ProductVariant :=
  catalog.variants.filter fun v => v.retailerId = retailerId && v.active && v.productId = some productId

/-- The candidate of a variant, where it has a price and a way to be costed. -/
def candidateOf (requiredDim : Dimension) (v : ProductVariant) : Option Candidate := do
  let price ← gatedCurrentPrice catalog.prices v.id storeId requiredScope now true catalog.thresholds
  let mode := costingMode py u v providerCode requiredDim
  if mode = .unresolved then none
  else some { variant := v, price := price.amount, priceScope := price.priceScope.value, fresh := price.status = .fresh, mode := mode }

/-- Candidates are compared by cost, then by price and id; the id is taken as a rational number. -/
def purchaseKey (bought : Candidate × Purchase) : ℚ ×ₗ ℚ ×ₗ ℚ :=
  toLex (bought.2.lineCost, toLex (bought.1.price, (bought.1.variant.id : ℚ)))

def bestCandidate (productIds : List Int) (requiredBase : ℚ) (requiredDim : Dimension) : Option (Candidate × Purchase) :=
  ((productIds.flatMap (variantsOf catalog retailerId)).filterMap fun v => do
    let cand ← candidateOf py u catalog providerCode storeId requiredScope now requiredDim v
    let purchase ← costCandidate py u requiredBase requiredDim cand
    some (cand, purchase)).argmin purchaseKey

/-- The line of an ingredient that is not costed. -/
def blankLine (ri : RecipeIngredient) : IngredientCostLine where
  ingredientId := ri.ingredientId
  canonicalName := ri.canonicalName
  displayName := (ri.displayName.filter (· ≠ "")).getD ri.canonicalName
  requiredQuantity := ri.quantity.value
  requiredUnit := ri.unit
  optional := ri.optional

/-- The line of what is bought for an ingredient. -/
def boughtLine (ri : RecipeIngredient) (requiredBase : ℚ) (cand : Candidate) (purchase : Purchase) : Option IngredientCostLine := do
  let v := cand.variant
  let consumedRatio := if 0 < purchase.purchasedBase then py.div requiredBase purchase.purchasedBase else 0
  let consumedCost ← quantize 2 (py.mul purchase.lineCost consumedRatio)
  let packagePrice ← quantize 2 cand.price
  let unitsPurchased ← quantize 0 purchase.units
  let purchasedQuantity ← quantize 4 purchase.purchasedBase
  let consumedQuantity ← quantize 4 requiredBase
  let surplusQuantity ← quantize 4 (py.sub purchase.purchasedBase requiredBase)
  let lineCost ← quantize 2 purchase.lineCost
  let surplusValue ← quantize 2 (py.sub lineCost consumedCost)
  return { blankLine ri with
    costable := true
    productId := v.productId
    variantId := some v.id
    externalProductId := if v.externalProductId ≠ 0 then some (toString v.externalProductId) else none
    productName := some v.displayName
    costingMode := some cand.mode
    priceScope := some cand.priceScope
    fresh := some cand.fresh
    packageQuantity := v.netContentQuantity.map (·.value)
    packageUnit := v.netContentUnit
    packagePrice := some packagePrice
    unitsPurchased := some unitsPurchased
    purchasedQuantity := some purchasedQuantity
    consumedQuantity := some consumedQuantity
    surplusQuantity := some surplusQuantity
    lineCost := some lineCost
    consumedCost := some consumedCost
    surplusValue := some surplusValue }

/-- `_cost_line` -/
def costLine (ri : RecipeIngredient) : Option IngredientCostLine :=
  match toBase py ri.quantity.value ri.unit with
  | none => some { blankLine ri with reason := some (ri.canonicalName ++ ": unidad de receta desconocida (" ++ ri.unit ++ ")") }
  | some (requiredBase, requiredDim) =>
    let productIds := eligibleProducts catalog retailerId providerCode ri.ingredientId
    if productIds = [] then some { blankLine ri with reason := some (ri.canonicalName ++ ": sin mapeo activo") }
    else match bestCandidate py u catalog retailerId providerCode storeId requiredScope now productIds requiredBase requiredDim with
      | none => some { blankLine ri with reason := some (ri.canonicalName ++ ": sin producto costeable (precio/unidad/envase)") }
      | some (cand, purchase) => boughtLine py ri requiredBase cand purchase

end Lines

/-! ### The recipe -/

structure RecipeCosting where
  recipeId : Int
  title : String
  servings : Int
  providerCode : String
  retailerSlug : String
  priceScope : String
  evaluatedAt : Instant
  pantryPolicy : String
  fullyCostable : Bool := false
  lines : List IngredientCostLine := []
  totalPurchaseCost : Option ℚ := none
  totalConsumedCost : Option ℚ := none
  totalLeftoverValue : Option ℚ := none
  reusableLeftoverValue : Option ℚ := none
  nonReusableLeftoverValue : Option ℚ := none
  unallocatedLeftoverValue : Option ℚ := none
  totalSurplusValue : Option ℚ := none
  costPerServingPurchase : Option ℚ := none
  costPerServingConsumed : Option ℚ := none
  currency : String := "EUR"
  optionalIngredientsIncluded : List String := []
  optionalIngredientsExcluded : List String := []
  uncostableReasons : List String := []
deriving DecidableEq

/-- The accumulators of the loop over the ingredients. -/
structure Tally where
  mandatoryCostable : Bool := true
  totalPurchase : ℚ := 0
  totalConsumed : ℚ := 0
  totalSurplus : ℚ := 0
  anyPriced : Bool := false
  excluded : List String := []
  uncostableReasons : List String := []

section Totals
variable (py : Runtime)

def Tally.add (tally : Tally) (line : IngredientCostLine) : Tally :=
  if line.optional then { tally with excluded := tally.excluded ++ [line.canonicalName] }
  else match line.costable, line.lineCost with
    | true, some lineCost =>
      { tally with
        anyPriced := true
        totalPurchase := py.add tally.totalPurchase lineCost
        totalConsumed := py.add tally.totalConsumed (line.consumedCost.getD 0)
        totalSurplus := py.add tally.totalSurplus (line.surplusValue.getD 0) }
    | _, _ =>
      { tally with
        mandatoryCostable := false
        uncostableReasons := tally.uncostableReasons ++ [line.reason.getD (line.canonicalName ++ ": no calculable")] }

def tallyOf (lines : List IngredientCostLine) : Tally := lines.foldl (Tally.add py) {}

def costRecipe (u : Alphabet) (catalog : Catalog) (recipe : Recipe) (providerCode : String) (storeId : Option Int) (pantryPolicy : String)
    (now : Instant) : Option RecipeCosting := do
  let retailerSlug := (retailerSlugs.lookup providerCode).getD providerCode
  let requiredScope := if (storeId.filter (· ≠ 0)).isSome then "exact_store" else "national"
  let result : RecipeCosting :=
    { recipeId := recipe.id
      title := recipe.title
      servings := if recipe.servings = 0 then 1 else recipe.servings
      providerCode := providerCode
      retailerSlug := retailerSlug
      priceScope := requiredScope
      evaluatedAt := now
      pantryPolicy := pantryPolicy }
  match catalog.retailers.find? (·.slug = retailerSlug) with
  | none => return { result with uncostableReasons := ["retailer no encontrado"] }
  | some retailer =>
    let lines ← recipe.ingredients.mapM (costLine py u catalog retailer.id providerCode storeId requiredScope now)
    let tally := tallyOf py lines
    let result := { result with
      lines := lines
      optionalIngredientsExcluded := tally.excluded
      uncostableReasons := tally.uncostableReasons }
    if tally.mandatoryCostable && tally.anyPriced then
      let totalPurchaseCost ← quantize 2 tally.totalPurchase
      let totalConsumedCost ← quantize 2 tally.totalConsumed
      let leftover ← quantize 2 tally.totalSurplus
      let costPerServingPurchase ← quantize 2 (py.div tally.totalPurchase result.servings)
      let costPerServingConsumed ← quantize 2 (py.div tally.totalConsumed result.servings)
      return { result with
        fullyCostable := true
        totalPurchaseCost := some totalPurchaseCost
        totalConsumedCost := some totalConsumedCost
        totalLeftoverValue := some leftover
        totalSurplusValue := some leftover
        -- The leftover of an isolated recipe is neither reused nor proven wasted.
        reusableLeftoverValue := some 0
        nonReusableLeftoverValue := some 0
        unallocatedLeftoverValue := some leftover
        costPerServingPurchase := some costPerServingPurchase
        costPerServingConsumed := some costPerServingConsumed }
    else return result

end Totals
end CestaPlan.Costing
