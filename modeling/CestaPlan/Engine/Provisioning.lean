import CestaPlan.Engine.Packaging
import CestaPlan.Engine.Scheduling
import CestaPlan.Engine.Supplies
import Mathlib.Data.String.Basic

/-! From meals to grocery lines and their cost (`cestaplan_engine/provisioning.py`). -/

namespace CestaPlan.Engine

structure MealAssignment where
  slotIndex : Nat
  date : Date
  mealType : MealType
  recipe : CandidateRecipeDTO
  servings : Nat
  participants : List String
deriving DecidableEq

/-- The key of a line: `i:` and an ingredient, or `p:` and a product. -/
inductive LineKey where
  | ingredient (canonicalName : String)
  | product (productId : String)
deriving DecidableEq

/-- The order of the keys as strings. -/
def LineKey.upTo : LineKey → LineKey → Prop
  | .ingredient a, .ingredient b => a ≤ b
  | .ingredient _, .product _ => True
  | .product _, .ingredient _ => False
  | .product a, .product b => a ≤ b

instance : DecidableRel LineKey.upTo := fun a b => by
  cases a <;> cases b <;> unfold LineKey.upTo <;> infer_instance

structure LineMeta where
  canonicalName : String
  product : Option CatalogProductDTO
  targetUnit : String
  category : String
  displayName : String
deriving DecidableEq

structure Provision where
  groceryLines : List GroceryLineDTO := []
  leftovers : List LeftoverDTO := []
  pantryUsed : List PantryUsedDTO := []
  costKnown : ℚ := 0
  costEstimated : ℚ := 0
  imputableByMeal : Dict Nat ℚ := Dict.empty
  warnings : List PlanWarning := []

structure Provisioner where
  matcher : ProductMatcher
  pantry : PantryCalculator
  weights : ScoringWeights
  factors : Factors
  asOf : Option Date

section Provision
variable (py : Runtime)

def Provision.costTotal (prov : Provision) : ℚ := py.add prov.costKnown prov.costEstimated

def targetUnit (product : CatalogProductDTO) (fallback : String) : String :=
  match product.packages with
  | [] => fallback
  | first :: _ => first.packageUnit

namespace Provisioner
variable (p : Provisioner)

/-! ### The demand -/

/-- What one ingredient of a meal adds: to which line, how much, and whether its unit did not convert. -/
structure Contribution where
  key : LineKey
  line : LineMeta
  quantity : ℚ
  /-- The line whose warning is due, and the warning. -/
  failed : Option (LineKey × PlanWarning)

def priceless (ing : RecipeIngredientDTO) : LineMeta where
  canonicalName := ing.canonicalName
  product := none
  targetUnit := ing.unit
  category := "uncategorized"
  displayName := ing.displayName

def matchKey (ing : RecipeIngredientDTO) : Option CatalogProductDTO → LineKey
  | some product => .product product.productId
  | none => .ingredient ing.canonicalName

def matchLine (ing : RecipeIngredientDTO) : Option CatalogProductDTO → LineMeta
  | some product =>
    { canonicalName := ing.canonicalName
      product := some product
      targetUnit := targetUnit product ing.unit
      category := product.category
      displayName := product.displayName }
  | none => priceless ing

def contribution (meal : MealAssignment) (ing : RecipeIngredientDTO) : Contribution :=
  let scale := py.div meal.servings meal.recipe.servings
  let product := p.matcher.matchIngredient ing
  let key := matchKey ing product
  let line := matchLine ing product
  let rawQty := py.mul ing.quantity scale
  match convert py p.factors rawQty ing.unit line.targetUnit (some ing.canonicalName) with
  | .ok qty => { key := key, line := line, quantity := qty, failed := none }
  | .error _ =>
    { key := .ingredient ing.canonicalName
      line := priceless ing
      quantity := rawQty
      failed := some (key, .cannotConvert ing.unit line.targetUnit ing.canonicalName) }

/-- The dictionaries that `provision` fills from the meals. -/
structure Demand where
  lineMeta : Dict LineKey LineMeta := Dict.empty
  demand : Dict LineKey ℚ := Dict.empty
  demandByMeal : Dict (LineKey × Nat) ℚ := Dict.empty
  seenWarn : List LineKey := []
  warnings : List PlanWarning := []

def Demand.add (d : Demand) (slotIndex : Nat) (c : Contribution) : Demand where
  lineMeta := d.lineMeta.setDefault c.key c.line
  demand := d.demand.set c.key (py.add (d.demand.getD c.key 0) c.quantity)
  demandByMeal := d.demandByMeal.set (c.key, slotIndex) (py.add (d.demandByMeal.getD (c.key, slotIndex) 0) c.quantity)
  seenWarn := match c.failed with
    | some (key, _) => if d.seenWarn.contains key then d.seenWarn else d.seenWarn ++ [key]
    | none => d.seenWarn
  warnings := match c.failed with
    | some (key, warning) => if d.seenWarn.contains key then d.warnings else d.warnings ++ [warning]
    | none => d.warnings

/-- What the meals contribute, in order, with the slot of each contribution. -/
def contributions (meals : List MealAssignment) : List (Nat × Contribution) :=
  meals.flatMap fun meal => meal.recipe.ingredients.map fun ing => (meal.slotIndex, contribution py p meal ing)

def demandOf (meals : List MealAssignment) : Demand :=
  (contributions py p meals).foldl (fun d (slotIndex, c) => d.add py slotIndex c) {}

/-! ### The lines -/

/-- The line of a key without a format to buy. -/
def unpricedLine (line : LineMeta) (needed pantryUsed pending : ℚ) : GroceryLineDTO where
  canonicalName := line.canonicalName
  productId := line.product.map (·.productId)
  displayName := line.displayName
  category := line.category
  neededQuantity := needed
  pantryQuantity := pantryUsed
  pendingQuantity := pending
  usedQuantity := needed
  packageUnit := some line.targetUnit

def pricedLine (line : LineMeta) (product : CatalogProductDTO) (needed pantryUsed pending : ℚ)
    (choice : PackageChoice) : GroceryLineDTO where
  canonicalName := line.canonicalName
  productId := some product.productId
  displayName := line.displayName
  category := line.category
  neededQuantity := needed
  pantryQuantity := pantryUsed
  pendingQuantity := pending
  packagesCount := choice.result.packages
  packageQuantity := some choice.option.packageQuantity
  packageUnit := some choice.option.packageUnit
  packagePrice := some choice.option.amount
  purchasedQuantity := choice.result.purchased
  usedQuantity := needed
  leftover := choice.result.leftover
  subtotal := choice.result.totalCost
  subtotalKnown := choice.priceKnown
  availability := choice.option.availability
  sourceType := choice.option.sourceType
  sourceName := choice.option.sourceName
  observedAt := choice.option.observedAt
  expired := choice.expired

/-- The share of a line's subtotal that each meal takes, by its demand. -/
def impute (meals : List MealAssignment) (d : Demand) (key : LineKey) (needed subtotal : ℚ)
    (imputable : Dict Nat ℚ) : Dict Nat ℚ :=
  if 0 < needed ∧ 0 < subtotal then
    meals.foldl (fun imputable meal =>
      match d.demandByMeal.get? (key, meal.slotIndex) with
      | some shareQty =>
        if shareQty ≠ 0 then
          imputable.set meal.slotIndex
            (py.add (imputable.getD meal.slotIndex 0) (py.div (py.mul subtotal shareQty) needed))
        else imputable
      | none => imputable) imputable
  else imputable

def addLine (meals : List MealAssignment) (d : Demand) (prov : Provision) (key : LineKey) : Provision :=
  match d.lineMeta.get? key with
  | none => prov
  | some line =>
    let needed := d.demand.getD key 0
    match line.product.filter (·.packages ≠ []) with
    | none => { prov with groceryLines := prov.groceryLines ++ [unpricedLine line needed 0 needed] }
    | some product =>
      let (pantryUsed, pending) := p.pantry.pending py line.canonicalName needed line.targetUnit
      match choosePackage py pending product.packages p.asOf p.weights.waste p.weights.cost with
      | none => { prov with groceryLines := prov.groceryLines ++ [unpricedLine line needed pantryUsed pending] }
      | some choice =>
        let subtotal := choice.result.totalCost
        let leftover := choice.result.leftover
        { prov with
          costKnown := if choice.priceKnown then py.add prov.costKnown subtotal else prov.costKnown
          costEstimated := if choice.priceKnown then prov.costEstimated else py.add prov.costEstimated subtotal
          groceryLines := prov.groceryLines ++ [pricedLine line product needed pantryUsed pending choice]
          pantryUsed := if 0 < pantryUsed then
              prov.pantryUsed ++
                [{ canonicalName := line.canonicalName, quantity := pantryUsed, unit := line.targetUnit }]
            else prov.pantryUsed
          leftovers := if 0 < leftover then
              prov.leftovers ++
                [{ canonicalName := line.canonicalName
                   productId := some product.productId
                   displayName := line.displayName
                   quantity := leftover
                   unit := choice.option.packageUnit }]
            else prov.leftovers
          imputableByMeal := impute py meals d key needed subtotal prov.imputableByMeal }

def provision (meals : List MealAssignment) : Provision :=
  let d := demandOf py p meals
  (d.demand.keys.insertionSort LineKey.upTo).foldl (addLine py p meals d) { warnings := d.warnings }

end Provisioner
end Provision
end CestaPlan.Engine
