import CestaPlan.Ingestion.Normalization
import CestaPlan.Library.Dict
import Mathlib.Data.List.Sort
import Mathlib.Data.String.Basic

/-! The connector of operator feeds (`ingestion/connectors/feed.py`), from the rows that the file adapters parse. -/

namespace CestaPlan.Ingestion
open Calendar (Instant)

inductive LegalStatus where
  | unknown | public_ | authorized | permissionRequired | prohibited
deriving DecidableEq

inductive PriceScope where
  | exactStore | deliveryZone | postalCode | municipality | province | region | national | unknown
deriving DecidableEq

inductive PriceType where
  | regular | promotional | loyalty | manual | receipt | estimated | unknown
deriving DecidableEq

inductive PromotionType where
  | percentage | fixed | nxm | secondUnit | minQuantity | pack
deriving DecidableEq

structure PromotionInfo where
  promotionType : PromotionType
  rawText : Option String := none
  requiredQuantity : Option Nat := none
  chargedQuantity : Option Nat := none
  percentageDiscount : Option ℚ := none
  fixedDiscount : Option ℚ := none
  loyaltyRequired : Bool := false
  validFrom : Option Instant := none
  validUntil : Option Instant := none
deriving DecidableEq

structure SourceRef where
  sourceSlug : String
  sourceUrl : Option String
  connectorVersion : String
  parserVersion : String
deriving DecidableEq

structure NormalizedObservation where
  variantRef : String
  amount : Decimal
  currency : String
  priceScope : PriceScope
  priceType : PriceType
  observedAt : Instant
  unitAmount : Option Decimal := none
  unitCode : Option String := none
  promotion : Option PromotionInfo := none
  requiresLoyalty : Bool := false
  available : Option Bool := none
  confidence : ℚ := 1
  source : SourceRef
deriving DecidableEq

structure Capabilities where
  fullCatalog : Bool := false
  partialCatalog : Bool := false
  prices : Bool := false
  promotions : Bool := false
  loyaltyPrices : Bool := false
  availability : Bool := false
  exactStoreScope : Bool := false
  deliveryZoneScope : Bool := false
  regionalScope : Bool := false
  nationalScope : Bool := false
  productImages : Bool := false
  barcodes : Bool := false
  nutrition : Bool := false
  incrementalSync : Bool := false
deriving DecidableEq

inductive FetchError where
  | feedDisabled
  | noFeedRow (externalId : String)
deriving DecidableEq

structure FetchResult (α : Type) where
  ok : Bool
  statusCode : Option Nat := none
  url : Option String := none
  contentType : Option String := none
  payload : Option α := none
  error : Option FetchError := none

/-- The columns of a feed row that the connector reads. -/
structure RawRow where
  productExternalId : String := ""
  productName : String := ""
  brand : String := ""
  barcode : String := ""
  packageQuantity : String := ""
  packageUnit : String := ""
  amount : String := ""
  currency : String := ""
  promotion : String := ""
  sourceUrl : String := ""
  observedAt : String := ""
  storeExternalCode : String := ""
  canonicalName : String := ""
deriving DecidableEq, Inhabited

structure RawPackage where
  quantity : Option String
  unit : Option String
  count : Nat
deriving DecidableEq

structure RawPayload where
  externalId : String
  barcode : Option String
  name : String
  brand : Option String
  package : Option RawPackage
  amount : Option String
  currency : String
  observedAt : Option String
  storeExternalCode : Option String
  promotion : Option String
  canonicalName : Option String
  sourceUrl : Option String
deriving DecidableEq

structure FeedParsedRecord where
  externalId : String
  name : String
  amount : Option String
  currency : String
  observedAt : Instant
  packageQuantity : Option String
  packageUnit : Option String
  packageCount : Nat
  brand : Option String
  barcode : Option String
  storeExternalCode : Option String
  promotionText : Option String
  canonicalName : Option String
  sourceUrl : Option String
deriving DecidableEq

/-- Why a record gives no observation. -/
inductive SkipReason where
  | failed (error : NormalizationError)
  | missingAmount
deriving DecidableEq

structure ParseResult where
  ok : Bool
  observations : List NormalizedObservation := []
  /-- The ids of the skipped records, with the reasons. -/
  warnings : List (String × SkipReason) := []
  error : Option String := none
deriving DecidableEq

structure CsvFeedConnector where
  /-- The rows of the feed, as the adapter parses them. -/
  feed : List RawRow
  feedFormat : String := "csv"
  enabled : Bool := true
  legalStatus : LegalStatus := .authorized
  defaultPriceType : PriceType := .regular
  sourceSlug : String := "operator-feed"
  /-- `PromotionParser().parse` -/
  promotionParser : String → Option PromotionInfo

def clean (value : String) : Option String := (some (Text.strip value)).filter (· ≠ "")

def parseDt (py : Runtime) (value : Option String) : Option Instant := do
  let text ← value.bind clean
  let text := if text.toList.getLast? = some 'Z' then String.ofList text.toList.dropLast ++ "+00:00" else text
  let parsed ← py.fromisoformat text
  return parsed.reading - parsed.offset.getD 0

/-! ### Loading -/

/-- The rows by their ids, and the flags of what the feed has. -/
structure Loaded where
  rows : Dict String RawRow := Dict.empty
  hasStore : Bool := false
  hasStoreless : Bool := false
  hasPromotions : Bool := false
  hasLoyalty : Bool := false
  hasBarcodes : Bool := false

def RawRow.identity (raw : RawRow) : Option String := (clean raw.productExternalId).or (clean raw.barcode)

namespace CsvFeedConnector
variable (py : Runtime) (c : CsvFeedConnector)

def updateFlags (loaded : Loaded) (raw : RawRow) : Loaded :=
  { loaded with
    hasStore := loaded.hasStore || (clean raw.storeExternalCode).isSome
    hasStoreless := loaded.hasStoreless || (clean raw.storeExternalCode).isNone
    hasBarcodes := loaded.hasBarcodes || (clean raw.barcode).isSome
    hasPromotions := loaded.hasPromotions || (clean raw.promotion).isSome
    hasLoyalty := loaded.hasLoyalty || ((clean raw.promotion).bind c.promotionParser).any (·.loyaltyRequired) }

/-- A row with no id is never keyed. -/
def loadRow (loaded : Loaded) (raw : RawRow) : Loaded :=
  match raw.identity with
  | none => loaded
  | some externalId => c.updateFlags { loaded with rows := loaded.rows.set externalId raw } raw

def ensureLoaded : Loaded := if c.enabled then c.feed.foldl c.loadRow {} else {}

def capabilities : Capabilities where
  prices := true
  partialCatalog := true
  promotions := c.ensureLoaded.hasPromotions
  loyaltyPrices := c.ensureLoaded.hasLoyalty
  barcodes := c.ensureLoaded.hasBarcodes
  exactStoreScope := c.ensureLoaded.hasStore
  nationalScope := c.ensureLoaded.hasStoreless

/-! ### Discovery and fetch -/

def discoverProducts : FetchResult (List String) where
  ok := true
  statusCode := some 200
  payload := some (if c.enabled then c.ensureLoaded.rows.keys.insertionSort (· ≤ ·) else [])

def rawPayload (externalId : String) (row : RawRow) : RawPayload where
  externalId := externalId
  barcode := clean row.barcode
  name := (clean row.productName).getD externalId
  brand := clean row.brand
  package :=
    if (clean row.packageQuantity).isSome || (clean row.packageUnit).isSome then
      some { quantity := clean row.packageQuantity, unit := clean row.packageUnit, count := 1 }
    else none
  amount := clean row.amount
  currency := (clean row.currency).getD "EUR"
  observedAt := clean row.observedAt
  storeExternalCode := clean row.storeExternalCode
  promotion := clean row.promotion
  canonicalName := clean row.canonicalName
  sourceUrl := clean row.sourceUrl

def fetchProduct (externalId : String) : FetchResult RawPayload :=
  if c.enabled then
    match c.ensureLoaded.rows.get? externalId with
    | none => { ok := false, statusCode := some 404, error := some (.noFeedRow externalId) }
    | some row =>
      let raw := rawPayload externalId row
      { ok := true, statusCode := some 200, url := raw.sourceUrl
        contentType := some (if c.feedFormat = "csv" then "text/csv" else "application/json"), payload := some raw }
  else { ok := false, error := some .feedDisabled }

/-! ### Parsing -/

def parseRaw (raw : RawPayload) : Option FeedParsedRecord := do
  let externalId ← (clean raw.externalId).or (raw.barcode.bind clean)
  let observedAt ← parseDt py raw.observedAt
  return {
    externalId
    name := if raw.name = "" then externalId else raw.name
    amount := raw.amount.bind clean
    currency := (clean raw.currency).getD "EUR"
    observedAt
    packageQuantity := raw.package.bind fun package => package.quantity.bind clean
    packageUnit := raw.package.bind fun package => package.unit.bind clean
    packageCount := 1
    brand := raw.brand.bind clean
    barcode := raw.barcode.bind clean
    storeExternalCode := raw.storeExternalCode.bind clean
    promotionText := raw.promotion.bind clean
    canonicalName := raw.canonicalName.bind clean
    sourceUrl := raw.sourceUrl.bind clean }

def priceType (promotion : Option PromotionInfo) : PriceType × Bool :=
  match promotion with
  | none => (c.defaultPriceType, false)
  | some promotion => if promotion.loyaltyRequired then (.loyalty, true) else (.promotional, false)

def confidence : ℚ := if c.legalStatus = .authorized then 95 / 100 else 65 / 100

/-- The observation of a record with a price. -/
def observationOf (record : FeedParsedRecord) (price : NormalizedPrice) (amount : Decimal) : NormalizedObservation :=
  let promotion := record.promotionText.bind c.promotionParser
  { variantRef := record.externalId, amount, currency := price.currency
    priceScope := if record.storeExternalCode.isSome then .exactStore else .national
    priceType := (c.priceType promotion).1, observedAt := record.observedAt
    unitAmount := price.unitAmount, unitCode := price.unitCode
    promotion, requiresLoyalty := (c.priceType promotion).2
    confidence := c.confidence
    source := { sourceSlug := c.sourceSlug, sourceUrl := record.sourceUrl, connectorVersion := "1.0.0", parserVersion := "1.0.0" } }

/-- One record of `normalize_product`: an error of the normalizer is a warning, an arithmetic one is not caught. -/
def normalizeRecord (record : FeedParsedRecord) : Except Raised ParseResult :=
  match normalizePrice py record.amount record.currency record.packageQuantity record.packageUnit with
  | .error (.normalization error) => .ok { ok := true, warnings := [(record.externalId, .failed error)] }
  | .error .invalidOperation => .error .invalidOperation
  | .ok price => match price.amount with
    | none => .ok { ok := true, warnings := [(record.externalId, .missingAmount)] }
    | some amount => .ok { ok := true, observations := [c.observationOf record price amount] }

def parseProduct (capture : FetchResult RawPayload) : Except Raised ParseResult :=
  match capture.payload.bind (parseRaw py) with
  | none => .ok { ok := false, error := some "no parseable records" }
  | some record => c.normalizeRecord py record

/-- What is observed: every discovered id is fetched and parsed, and its observations come with the payload. -/
def observed : Except Raised (List (RawPayload × NormalizedObservation)) := do
  let batches ← (c.discoverProducts.payload.getD []).mapM fun externalId => do
    let fetched := c.fetchProduct externalId
    let parsed ← c.parseProduct py fetched
    return fetched.payload.toList.flatMap fun raw => parsed.observations.map fun observation => (raw, observation)
  return batches.flatten

end CsvFeedConnector
end CestaPlan.Ingestion
