import CestaPlan.Catalog.PlanCatalog
import CestaPlan.Engine.Runtime
import CestaPlan.Library.Numeric

/-! The lines of a grocery list (`GroceryListItem`): the generation of a plan writes them (`_persist_grocery_list`), and
    the edits of the list change them (`routers/grocery.py`). -/

namespace CestaPlan.Grocery
open Engine Catalog Updates

/-! ### The rows -/

inductive PriceStatus where
  | known | estimated | missing | stale
deriving DecidableEq

/-- A line. Its quantities are in a unit that no column keeps. -/
structure GroceryListItem where
  publicId : Nat
  productId : Option Nat := none
  ingredientId : Option Nat := none
  neededQuantity : ℚ
  pantryQuantity : ℚ
  pendingQuantity : ℚ
  packageQuantity : Option ℚ := none
  packageUnit : Option String := none
  packagesSelected : Option Nat := none
  purchasedQuantity : Option ℚ := none
  usedQuantity : Option ℚ := none
  leftoverQuantity : Option ℚ := none
  unitPrice : Option ℚ := none
  priceProductPriceId : Option Nat := none
  totalCost : Option ℚ := none
  priceStatus : PriceStatus
  isChecked : Bool := false
deriving DecidableEq

inductive Role where
  | owner | editor | viewer
deriving DecidableEq

structure HouseholdMember where
  householdId : Nat
  userId : Nat
  role : Role
deriving DecidableEq

structure MealPlan where
  householdId : Nat
  retailerId : Option Nat
  deletedAt : Option Calendar.Instant := none

/-- The tables, with one plan and its grocery list. -/
structure Database where
  shop : Shop
  members : List HouseholdMember := []
  mealPlan : MealPlan
  groceryList : Option (List GroceryListItem) := none

inductive Fault where
  | http (status : Nat) (detail : String)
  | numericFieldOverflow
deriving DecidableEq

/-! ### The columns -/

/-- A `numeric` column has room for eight digits before the point. -/
def fitsColumn (scale : Nat) (x : ℚ) : Bool := |Numeric.roundScale scale x| < 10 ^ 8

section Columns
variable (item : GroceryListItem)

def GroceryListItem.fits : Bool :=
  fitsColumn 4 item.neededQuantity && fitsColumn 4 item.pantryQuantity && fitsColumn 4 item.pendingQuantity &&
    item.packageQuantity.all (fitsColumn 4) && item.purchasedQuantity.all (fitsColumn 4) &&
    item.usedQuantity.all (fitsColumn 4) && item.leftoverQuantity.all (fitsColumn 4) &&
    item.unitPrice.all (fitsColumn 6) && item.totalCost.all (fitsColumn 4)

/-- The line as its columns keep it. -/
def GroceryListItem.stored : GroceryListItem :=
  { item with
    neededQuantity := Numeric.roundScale 4 item.neededQuantity
    pantryQuantity := Numeric.roundScale 4 item.pantryQuantity
    pendingQuantity := Numeric.roundScale 4 item.pendingQuantity
    packageQuantity := item.packageQuantity.map (Numeric.roundScale 4)
    purchasedQuantity := item.purchasedQuantity.map (Numeric.roundScale 4)
    usedQuantity := item.usedQuantity.map (Numeric.roundScale 4)
    leftoverQuantity := item.leftoverQuantity.map (Numeric.roundScale 4)
    unitPrice := item.unitPrice.map (Numeric.roundScale 6)
    totalCost := item.totalCost.map (Numeric.roundScale 4) }

/-- `db.flush()` of a line. -/
def flush : Except Fault GroceryListItem :=
  if item.fits then .ok item.stored else .error .numericFieldOverflow

end Columns

theorem flush_eq_ok {item row : GroceryListItem} : flush item = .ok row ↔ item.fits = true ∧ item.stored = row := by
  unfold flush
  split
  · next h => simp [h]
  · next h => simp [h]

/-! ### The generation -/

/-- `_price_status`. -/
def priceStatus (line : GroceryLineDTO) : PriceStatus :=
  if line.expired then .stale
  else if line.subtotalKnown then .known
  else if 0 < line.subtotal then .estimated
  else .missing

/-- The row of a generated line, before it is flushed. -/
def generatedItem (resolver : LineResolver) (line : GroceryLineDTO) (publicId : Nat) : GroceryListItem :=
  let provenance := resolver.resolve line
  { publicId := publicId
    productId := provenance.productId
    ingredientId := resolver.ingredientId.get? line.canonicalName
    neededQuantity := line.neededQuantity
    pantryQuantity := line.pantryQuantity
    pendingQuantity := line.pendingQuantity
    packageQuantity := line.packageQuantity
    packageUnit := line.packageUnit
    packagesSelected := some line.packagesCount
    purchasedQuantity := some line.purchasedQuantity
    usedQuantity := some line.usedQuantity
    leftoverQuantity := some line.leftover
    unitPrice := provenance.unitPrice
    priceProductPriceId := provenance.priceId
    totalCost := some line.subtotal
    priceStatus := priceStatus line
    isChecked := false }

/-- `_persist_grocery_list`. The rows get their ids in the order of the lines. -/
def persistGroceryList (settings : Settings) (shop : Shop) (scan : List IngredientProductMapping)
    (retailerId : Option Nat) (lines : List GroceryLineDTO) : Except Fault (List GroceryListItem) :=
  lines.zipIdx.mapM fun line => flush (generatedItem (lineResolver settings shop scan retailerId) line.1 line.2)

/-! ### The prices of an edit -/

/-- `ORDER BY observed_at DESC, id DESC`. -/
def latestFirst (a b : ProductPrice) : Prop :=
  b.observedAt < a.observedAt ∨ (a.observedAt = b.observedAt ∧ b.id ≤ a.id)

instance : DecidableRel latestFirst := fun _ _ => inferInstanceAs (Decidable (_ ∨ _))

section Prices
variable (shop : Shop) (productId : Nat)

/-- `_latest_price`: whatever the chain. -/
def latestPrice : Option ProductPrice :=
  ((shop.prices.filter fun p => p.productId = productId).insertionSort latestFirst).head?

/-- `_latest_price_for_retailer`. -/
def latestPriceForRetailer : Option Nat → Option ProductPrice
  | none => none
  | some retailerId =>
    ((shop.prices.filter fun p => p.productId = productId && p.retailerId = retailerId).insertionSort latestFirst).head?

end Prices

/-! ### The edits -/

structure GroceryItemIn where
  ingredientId : Option Nat := none
  productId : Option Nat := none
  neededQuantity : ℚ
  unit : String

section Edits
variable (db : Database) (userId : Nat)

/-- `resolve_plan` of a request that edits. -/
def resolvePlan : Except Fault MealPlan :=
  if db.mealPlan.deletedAt.isSome then .error (.http 404 "Plan no encontrado")
  else
    match db.members.find? fun m => m.householdId = db.mealPlan.householdId && m.userId = userId with
    | none => .error (.http 404 "Plan no encontrado")
    | some m =>
      if m.role = .owner ∨ m.role = .editor then .ok db.mealPlan
      else .error (.http 403 "Permisos insuficientes para esta acción")

def resolveList : Except Fault (List GroceryListItem) :=
  match db.groceryList with
  | none => .error (.http 404 "Lista de compra no encontrada")
  | some items => .ok items

def resolveItem (items : List GroceryListItem) (itemId : Nat) : Except Fault GroceryListItem :=
  match row? (·.publicId) items itemId with
  | none => .error (.http 404 "Artículo no encontrado")
  | some item => .ok item

def resolveIngredient : Option Nat → Except Fault (Option Nat)
  | none => .ok none
  | some id =>
    match row? (·.id) db.shop.ingredients id with
    | none => .error (.http 404 "Ingrediente no encontrado")
    | some ingredient => .ok (some ingredient.id)

def resolveProduct (id : Nat) : Except Fault Product :=
  match row? (·.id) db.shop.products id with
  | none => .error (.http 404 "Producto no encontrado")
  | some product => .ok product

def Database.writeItem (item : GroceryListItem) : Database :=
  { db with groceryList := db.groceryList.map (updateAt (·.publicId) item.publicId fun _ => item) }

/-- `toggle_item`. -/
def toggleItem (itemId : Nat) : Except Fault Database := do
  let _ ← resolvePlan db userId
  let items ← resolveList db
  let item ← resolveItem items itemId
  let item ← flush { item with isChecked := !item.isChecked }
  return db.writeItem item

/-- The row of an added line, before it is flushed. -/
def addedItem (payload : GroceryItemIn) (publicId : Nat) (ingredientId productId : Option Nat)
    (price : Option ProductPrice) : GroceryListItem where
  publicId := publicId
  productId := productId
  ingredientId := ingredientId
  neededQuantity := payload.neededQuantity
  pantryQuantity := 0
  pendingQuantity := payload.neededQuantity
  packageUnit := some payload.unit
  unitPrice := price.bind (·.unitPrice)
  priceProductPriceId := price.map (·.id)
  priceStatus := if price.isSome then .known else .missing
  isChecked := false

/-- `add_item`. -/
def addItem (payload : GroceryItemIn) : Except Fault Database := do
  let _ ← resolvePlan db userId
  let items ← resolveList db
  let ingredientId ← resolveIngredient db payload.ingredientId
  let product ← payload.productId.mapM (resolveProduct db)
  let price := product.bind fun product => latestPrice db.shop product.id
  let item ← flush (addedItem payload items.length ingredientId (product.map (·.id)) price)
  return { db with groceryList := some (items ++ [item]) }

/-- The line with the product and its price. What it has of packages is kept; without a price, so is its cost. -/
def substituted (py : Runtime) (item : GroceryListItem) (product : Product) : Option ProductPrice → GroceryListItem
  | some price =>
    { item with
      productId := some product.id
      unitPrice := price.unitPrice
      priceProductPriceId := some price.id
      packageQuantity := some price.packageQuantity
      packageUnit := some price.packageUnit
      priceStatus := .known
      totalCost := if item.packagesSelected.getD 0 = 0 then item.totalCost
        else some (py.mul price.amount (item.packagesSelected.getD 0)) }
  | none => { item with productId := some product.id, priceProductPriceId := none, priceStatus := .missing }

/-- `substitute_item`. -/
def substituteItem (py : Runtime) (itemId productId : Nat) : Except Fault Database := do
  let plan ← resolvePlan db userId
  let items ← resolveList db
  let item ← resolveItem items itemId
  let product ← resolveProduct db productId
  let item ← flush (substituted py item product (latestPriceForRetailer db.shop product.id plan.retailerId))
  return db.writeItem item

end Edits

/-! ### Runs -/

inductive Edit where
  | add (userId : Nat) (payload : GroceryItemIn)
  | substitute (userId itemId productId : Nat)
  | toggle (userId itemId : Nat)
  /-- A price that is observed between two edits. -/
  | observed (price : ProductPrice)

/-- The history of prices grows. -/
def Database.observe (db : Database) (price : ProductPrice) : Database :=
  if price.id ∈ db.shop.prices.map (·.id) then db
  else
    { db with shop := { db.shop with prices := db.shop.prices ++
        [{ price with
          amount := Numeric.roundScale 4 price.amount
          packageQuantity := Numeric.roundScale 4 price.packageQuantity }] } }

def request (py : Runtime) (db : Database) : Edit → Except Fault Database
  | .add userId payload => addItem db userId payload
  | .substitute userId itemId productId => substituteItem db userId py itemId productId
  | .toggle userId itemId => toggleItem db userId itemId
  | .observed price => .ok (db.observe price)

/-- A request that fails changes nothing. -/
def step (py : Runtime) (db : Database) (edit : Edit) : Database :=
  match request py db edit with
  | .ok db' => db'
  | .error _ => db

end CestaPlan.Grocery
