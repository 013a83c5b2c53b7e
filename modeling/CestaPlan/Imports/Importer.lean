import CestaPlan.Ingestion.Normalization

/-! The import service (`services/importer.py`): a batch is planned when it is created, committed and rolled back.

    Stores and products stand by the keys that are unique in the database (`ux_store_retailer_external`,
    `ux_product_retailer_external`); the others have no key and are never met by an import. -/

namespace CestaPlan.Imports
open Calendar (Instant)
open Ingestion (Decimal)

inductive StoreRef where
  | keyed (retailerSlug externalCode : String)
  | unkeyed (id : Nat)
deriving DecidableEq

inductive ProductRef where
  | keyed (retailerSlug externalId : String)
  | unkeyed (id : Nat)
deriving DecidableEq

/-- An aware datetime: what its clock shows and the offset of its zone. -/
structure AwareDateTime where
  reading : Instant
  offset : Int
deriving DecidableEq

def AwareDateTime.instant (t : AwareDateTime) : Instant := t.reading - t.offset

structure NormalizedRecord where
  retailerSlug : String
  storeExternalCode : String
  productExternalId : String
  productName : String
  packageQuantity : Decimal
  packageUnit : String
  amount : Decimal
  currency : String
  sourceType : String
  sourceName : String
  observedAt : AwareDateTime
  storeProvince : Option String := none
  storeLocality : Option String := none
  storePostalCode : Option String := none
  brand : Option String := none
  category : Option String := none
  barcode : Option String := none
  unitPrice : Option Decimal := none
  promotion : Option String := none
  availability : Option String := none
  sourceUrl : Option String := none
  expiresAt : Option AwareDateTime := none
  confidenceScore : Option Decimal := none
  verificationStatus : String := "unverified"
  canonicalName : Option String := none
deriving DecidableEq

/-! ### The database -/

structure StoreRow where
  ref : StoreRef
  province : Option String := none
  locality : Option String := none
  postalCode : Option String := none
deriving DecidableEq

structure ProductRow where
  ref : ProductRef
  name : String
  brand : Option String := none
  packageQuantity : Option Decimal := none
  packageUnit : Option String := none
  categoryCode : Option String := none
deriving DecidableEq

structure ProductBarcode where
  product : ProductRef
  barcode : String
  isPrimary : Bool
deriving DecidableEq

structure IngredientRow where
  id : Nat
  /-- `lower(canonical_name)`, as the database has it. -/
  loweredName : String
deriving DecidableEq

structure IngredientProductMapping where
  ingredientId : Nat
  product : ProductRef
  retailerSlug : Option String := none
  confidenceScore : Option ℚ := none
  isActive : Bool := true
deriving DecidableEq

structure ProductPrice where
  id : Nat
  retailerSlug : String
  store : StoreRef
  product : ProductRef
  amount : Decimal
  currency : String
  packageQuantity : Decimal
  packageUnit : String
  unitPrice : Option Decimal := none
  promotion : Option String := none
  availability : Option String := none
  sourceType : String
  sourceName : String
  sourceUrl : Option String := none
  observedAt : Instant
  importedAt : Instant
  expiresAt : Option Instant := none
  confidenceScore : ℚ
  importId : Option Nat := none
  verificationStatus : String := "unverified"
  isSynthetic : Bool := false
deriving DecidableEq

inductive Action where
  | created | updated | skipped
deriving DecidableEq

structure PlanResult where
  created : Nat := 0
  updated : Nat := 0
  skipped : Nat := 0
  mapped : Nat := 0
deriving DecidableEq

def PlanResult.count (result : PlanResult) : Action → PlanResult
  | .created => { result with created := result.created + 1 }
  | .updated => { result with updated := result.updated + 1 }
  | .skipped => { result with skipped := result.skipped + 1 }

inductive ImportStatus where
  | pending | validating | dryRun | committed | rolledBack | failed
deriving DecidableEq

structure DataImport where
  id : Nat
  status : ImportStatus
  dryRun : Bool
  rowCount : Nat
  okCount : Nat
  errorCount : Nat
  createdCount : Nat
  updatedCount : Nat
  skippedCount : Nat
  /-- `summary["records"]` -/
  records : List NormalizedRecord
  /-- `summary["stats"]["duplicates_in_batch"]` -/
  duplicatesInBatch : Nat
  committedAt : Option Instant := none
  rolledBackAt : Option Instant := none
deriving DecidableEq

/-- The import after its commit: the duplicates of the batch stay counted. -/
def DataImport.committed (dataImport : DataImport) (plan : PlanResult) (now : Instant) : DataImport :=
  { dataImport with
    status := .committed, dryRun := false, committedAt := some now, createdCount := plan.created
    updatedCount := plan.updated, skippedCount := plan.skipped + dataImport.duplicatesInBatch }

/-- A line of a grocery list, with the price it references. -/
structure GroceryListItem where
  id : Nat
  priceId : Option Nat
deriving DecidableEq

structure ImportDb where
  retailers : List String := []
  stores : List StoreRow := []
  products : List ProductRow := []
  barcodes : List ProductBarcode := []
  ingredients : List IngredientRow := []
  mappings : List IngredientProductMapping := []
  prices : List ProductPrice := []
  nextPriceId : Nat := 0
  imports : List DataImport := []
  nextImportId : Nat := 0
  items : List GroceryListItem := []
deriving DecidableEq

/-! ### Planning -/

namespace NormalizedRecord
variable (record : NormalizedRecord)

def store : StoreRef := .keyed record.retailerSlug record.storeExternalCode

def product : ProductRef := .keyed record.retailerSlug record.productExternalId

/-- `_obs_key`: the text of a datetime shows its clock and its offset. -/
def obsKey : String × String × String × AwareDateTime :=
  (record.retailerSlug, record.storeExternalCode, record.productExternalId, record.observedAt)

end NormalizedRecord

def StoreRef.externalCode : StoreRef → Option String
  | .keyed _ externalCode => some externalCode
  | .unkeyed _ => none

namespace ImportDb
variable (db : ImportDb) (record : NormalizedRecord)

def productExists : Bool := db.products.any (·.ref = record.product)

/-- `_observation_exists_in_db`: any store with the code will do. -/
def observationExists : Bool :=
  db.prices.any fun price => price.product = record.product && price.store.externalCode = some record.storeExternalCode &&
    price.observedAt = record.observedAt.instant

/-- One record of `plan_changes`, with the products that the batch has created before. -/
def planRecord (acc : List ProductRef × PlanResult) (record : NormalizedRecord) : List ProductRef × PlanResult :=
  if ¬(acc.1.contains record.product || db.productExists record) then (record.product :: acc.1, acc.2.count .created)
  else if db.observationExists record then (acc.1, acc.2.count .skipped)
  else (acc.1, acc.2.count .updated)

def planChanges (records : List NormalizedRecord) : PlanResult := (records.foldl db.planRecord ([], {})).2

end ImportDb

/-! ### Persistence -/

inductive DbError where
  | multipleResultsFound | invalidOperation | numericOverflow
deriving DecidableEq

/-- A value in a `numeric(precision, scale)` column. -/
def toColumn (precision scale : Nat) : Decimal → Except DbError Decimal
  | .finite value =>
    let rounded := Numeric.roundScale scale value
    if |rounded| < 10 ^ (precision - scale) then .ok (.finite rounded) else .error .numericOverflow
  | .infinity _ => .error .numericOverflow
  | .nan _ => .ok (.nan false)

def defaultConfidence (sourceType : String) : ℚ :=
  ([("official", 95 / 100), ("authorized_partner", 95 / 100), ("admin_import", 85 / 100), ("manual_entry", 65 / 100),
    ("user_receipt", 65 / 100), ("community_connector", 1 / 2), ("open_dataset", 1 / 2), ("estimated", 1 / 5),
    ("demo", 1)].lookup sourceType).getD (1 / 2)

/-- `quantize(Decimal("0.0001"))`, into `numeric(5, 4)`. -/
def quantizeConfidence : Decimal → Except DbError ℚ
  | .finite value =>
    let rounded : ℚ := Numeric.roundHalfEven (value * 10 ^ 4) / 10 ^ 4
    if |rounded| < 10 then .ok rounded else .error .numericOverflow
  | _ => .error .invalidOperation

def NormalizedRecord.confidence (record : NormalizedRecord) : Except DbError ℚ :=
  match record.confidenceScore with
  | some confidence => quantizeConfidence confidence
  | none => .ok (defaultConfidence record.sourceType)

/-- The catalogue fields of a product that is there are refreshed, not erased. -/
def ProductRow.refresh (row : ProductRow) (record : NormalizedRecord) (packageQuantity : Decimal) : ProductRow :=
  { row with
    name := record.productName
    brand := record.brand.or row.brand
    categoryCode := record.category.or row.categoryCode
    packageQuantity := some packageQuantity
    packageUnit := some record.packageUnit }

namespace ImportDb
section Persistence
variable (py : Engine.Runtime) (db : ImportDb) (record : NormalizedRecord)

def getOrCreateRetailer : ImportDb :=
  if db.retailers.contains record.retailerSlug then db
  else { db with retailers := db.retailers ++ [record.retailerSlug] }

def getOrCreateStore : ImportDb :=
  if db.stores.any (·.ref = record.store) then db
  else
    { db with
      stores := db.stores ++
        [{ ref := record.store, province := record.storeProvince, locality := record.storeLocality
           postalCode := record.storePostalCode }] }

/-- The product, and whether it was created. -/
def getOrCreateProduct : Except DbError (ImportDb × Bool) := do
  let packageQuantity ← toColumn 12 4 record.packageQuantity
  if db.productExists record then
    let refresh := fun row : ProductRow => if row.ref = record.product then row.refresh record packageQuantity else row
    return ({ db with products := db.products.map refresh }, false)
  else
    let row : ProductRow :=
      { ref := record.product, name := record.productName, brand := record.brand, packageQuantity := some packageQuantity
        packageUnit := some record.packageUnit, categoryCode := record.category }
    return ({ db with products := db.products ++ [row] }, true)

def ensureBarcode : ImportDb :=
  match record.barcode.filter (· ≠ "") with
  | none => db
  | some barcode =>
    if db.barcodes.any fun row => row.product = record.product && row.barcode = barcode then db
    else
      { db with
        barcodes := db.barcodes ++
          [{ product := record.product, barcode, isPrimary := !db.barcodes.any (·.product = record.product) }] }

/-- `scalar_one_or_none` raises where the lowered name is that of several ingredients. -/
def matchIngredient (canonicalName : String) : Except DbError (Option IngredientRow) :=
  if Text.strip canonicalName = "" then .ok none
  else match db.ingredients.filter (·.loweredName = py.lower (Text.strip canonicalName)) with
    | [] => .ok none
    | [ingredient] => .ok (some ingredient)
    | _ => .error .multipleResultsFound

def ensureIngredientMapping (ingredient : IngredientRow) : ImportDb × Bool :=
  if db.mappings.any fun row => row.ingredientId = ingredient.id && row.product = record.product then (db, false)
  else
    ({ db with
      mappings := db.mappings ++
        [{ ingredientId := ingredient.id, product := record.product, retailerSlug := some record.retailerSlug
           confidenceScore := some 1 }] }, true)

/-- The mapping of a record that names its ingredient. -/
def mapRecord : Except DbError (ImportDb × Bool) :=
  match record.canonicalName.filter (· ≠ "") with
  | none => .ok (db, false)
  | some canonicalName => do
    match ← db.matchIngredient py canonicalName with
    | none => return (db, false)
    | some ingredient => return db.ensureIngredientMapping record ingredient

/-- The store has the product's observation of the instant. -/
def duplicate : Bool :=
  db.prices.any fun price => price.store = record.store && price.product = record.product &&
    price.observedAt = record.observedAt.instant

/-- The row of an observation. -/
def priceRow (importId : Nat) (now : Instant) : Except DbError ProductPrice := do
  let confidenceScore ← record.confidence
  let amount ← toColumn 12 4 record.amount
  let packageQuantity ← toColumn 12 4 record.packageQuantity
  let unitPrice ← record.unitPrice.mapM (toColumn 14 6)
  return {
    id := db.nextPriceId, retailerSlug := record.retailerSlug, store := record.store, product := record.product
    amount, currency := record.currency, packageQuantity, packageUnit := record.packageUnit, unitPrice
    promotion := record.promotion, availability := record.availability, sourceType := record.sourceType
    sourceName := record.sourceName, sourceUrl := record.sourceUrl, observedAt := record.observedAt.instant
    importedAt := now, expiresAt := record.expiresAt.map (·.instant), confidenceScore, importId := some importId
    verificationStatus := record.verificationStatus, isSynthetic := record.sourceType = "demo" }

/-- The observation of a record, unless it is there. -/
def addPrice (importId : Nat) (now : Instant) : Except DbError ImportDb :=
  if db.duplicate record then .ok db
  else do
    let row ← db.priceRow record importId now
    return { db with prices := db.prices ++ [row], nextPriceId := db.nextPriceId + 1 }

/-- One record of `commit_records`. -/
def commitRecord (importId : Nat) (now : Instant) (acc : ImportDb × PlanResult) (record : NormalizedRecord) :
    Except DbError (ImportDb × PlanResult) := do
  let db := (acc.1.getOrCreateRetailer record).getOrCreateStore record
  let (db, created) ← db.getOrCreateProduct record
  let (db, mapped) ← (db.ensureBarcode record).mapRecord py record
  let result := if mapped then { acc.2 with mapped := acc.2.mapped + 1 } else acc.2
  let action := if created then Action.created else if db.duplicate record then .skipped else .updated
  let db ← db.addPrice record importId now
  return (db, result.count action)

def commitRecords (records : List NormalizedRecord) (importId : Nat) (now : Instant) : Except DbError (ImportDb × PlanResult) :=
  records.foldlM (commitRecord py importId now) (db, {})

end Persistence
end ImportDb

/-! ### Orchestration -/

inductive ImportError where
  | notFound
  | notCommittable (status : ImportStatus)
  | notCommitted (status : ImportStatus)
  | pricesReferenced (items : Nat)
  | database (error : DbError)
deriving DecidableEq

/-- The records of a batch whose observation no earlier record has. -/
def dedupBatch : List (String × String × String × AwareDateTime) → List NormalizedRecord → List NormalizedRecord
  | _, [] => []
  | seen, record :: records =>
    if seen.contains record.obsKey then dedupBatch seen records else record :: dedupBatch (record.obsKey :: seen) records

namespace ImportDb
section Orchestration
variable (py : Engine.Runtime) (db : ImportDb)

/-- The import of a batch, from its validated rows: a record, or nothing where there are errors. -/
def plannedImport (rows : List (Option NormalizedRecord)) (dryRun : Bool) : DataImport :=
  let records := dedupBatch [] (rows.filterMap id)
  let errorRows := rows.countP (·.isNone)
  let plan := db.planChanges records
  let duplicateCount := rows.length - errorRows - records.length
  { id := db.nextImportId, status := if dryRun then .dryRun else .pending, dryRun, rowCount := rows.length
    okCount := rows.length - errorRows, errorCount := errorRows, createdCount := plan.created, updatedCount := plan.updated
    skippedCount := plan.skipped + duplicateCount, records, duplicatesInBatch := duplicateCount }

def createImport (rows : List (Option NormalizedRecord)) (dryRun : Bool) : ImportDb :=
  { db with imports := db.imports ++ [db.plannedImport rows dryRun], nextImportId := db.nextImportId + 1 }

def saveImport (dataImport : DataImport) : ImportDb :=
  { db with imports := db.imports.map fun row => if row.id = dataImport.id then dataImport else row }

/-- What a commit leaves, and the import that it reports. A request that raises is rolled back. -/
def commitImport (now : Instant) (dataImport : DataImport) : ImportDb × Except ImportError DataImport :=
  if ¬(dataImport.status = .pending ∨ dataImport.status = .dryRun) then (db, .error (.notCommittable dataImport.status))
  else match db.commitRecords py dataImport.records dataImport.id now with
    | .error error => (db, .error (.database error))
    | .ok (db', plan) => (db'.saveImport (dataImport.committed plan now), .ok (dataImport.committed plan now))

/-- The price is one of the import. -/
def owned (importId : Nat) (price : ProductPrice) : Bool := price.importId = some importId

/-- The lines that reference prices of the import. -/
def referenced (importId : Nat) : Nat :=
  db.items.countP fun item => db.prices.any fun price => item.priceId = some price.id && owned importId price

def rollbackImport (now : Instant) (dataImport : DataImport) : ImportDb × Except ImportError Nat :=
  if dataImport.status ≠ .committed then (db, .error (.notCommitted dataImport.status))
  else if db.referenced dataImport.id ≠ 0 then (db, .error (.pricesReferenced (db.referenced dataImport.id)))
  else
    let deleted := db.prices.countP (owned dataImport.id)
    let db' := { db with prices := db.prices.filter (!owned dataImport.id ·) }
    (db'.saveImport { dataImport with status := .rolledBack, rolledBackAt := some now }, .ok deleted)

end Orchestration
end ImportDb
end CestaPlan.Imports
