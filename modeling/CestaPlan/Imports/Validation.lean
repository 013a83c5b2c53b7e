import CestaPlan.Imports.Importer
import CestaPlan.Ingestion.DecimalSignals

/-! The validation of a raw row (`services/importer.py`), and the record as JSON keeps it between the two phases
    (`adapters/base.py`). -/

namespace CestaPlan.Imports
open DecimalText Ingestion

/-! ### Datetimes as texts -/

/-- The offset of a zone, with seconds and microseconds where there are some. -/
def offsetText (offset : Int) : List Char :=
  let micros := offset.natAbs
  let seconds := micros / 1000000
  (if offset < 0 then '-' else '+') :: (Calendar.padded 2 (seconds / 3600) ++ ':' :: (Calendar.padded 2 (seconds / 60 % 60) ++
    if micros % 60000000 = 0 then [] else ':' :: (Calendar.padded 2 (seconds % 60) ++
      if micros % 1000000 = 0 then [] else '.' :: Calendar.padded 6 (micros % 1000000))))

/-- `datetime.isoformat()`. -/
def isoformat (t : DateTime) : String :=
  String.ofList ((Calendar.isoformat (Calendar.dayOf t.reading)).toList ++ 'T' :: (Calendar.timeText t.reading ++
    (t.offset.map offsetText).getD []))

/-- The datetime in UTC, where it has no zone. -/
def aware (t : DateTime) : DateTime := { t with offset := some (t.offset.getD 0) }

/-! ### Rows and records -/

/-- The columns of a row, as texts. -/
abbrev RawRow := String → Option String

namespace RawRow
variable (row : RawRow) (column : String)

/-- What is read of a column: one that is not there is as one that is empty. -/
def text : String := (row column).getD ""

/-- `row.get(column) or None` -/
def optional : Option String := (some (row.text column)).filter (· ≠ "")

/-- `_decimal` of a column that is not empty. -/
def numeral : Option Numeral := (row.optional column).bind decimal?

end RawRow

/-- A `NormalizedRecord` with its decimals as they were written and its datetimes with their zones. -/
structure WrittenRecord where
  retailerSlug : String
  storeExternalCode : String
  productExternalId : String
  productName : String
  packageQuantity : Numeral
  packageUnit : String
  amount : Numeral
  currency : String
  sourceType : String
  sourceName : String
  observedAt : DateTime
  storeProvince : Option String := none
  storeLocality : Option String := none
  storePostalCode : Option String := none
  brand : Option String := none
  category : Option String := none
  barcode : Option String := none
  unitPrice : Option Numeral := none
  promotion : Option String := none
  availability : Option String := none
  sourceUrl : Option String := none
  expiresAt : Option DateTime := none
  confidenceScore : Option Numeral := none
  verificationStatus : String := "unverified"
  canonicalName : Option String := none
deriving DecidableEq

structure RowError where
  row : Nat
  field : Option String
  message : String
deriving DecidableEq

structure RowValidation where
  record : Option WrittenRecord := none
  errors : List RowError := []
deriving DecidableEq

/-! ### JSON -/

def WrittenRecord.toJson (record : WrittenRecord) : List (String × Option String) :=
  [("retailer_slug", record.retailerSlug), ("store_external_code", record.storeExternalCode),
   ("store_province", record.storeProvince), ("store_locality", record.storeLocality),
   ("store_postal_code", record.storePostalCode), ("product_external_id", record.productExternalId),
   ("product_name", record.productName), ("brand", record.brand), ("category", record.category), ("barcode", record.barcode),
   ("package_quantity", record.packageQuantity.text), ("package_unit", record.packageUnit), ("amount", record.amount.text),
   ("currency", record.currency), ("unit_price", record.unitPrice.map (·.text)), ("promotion", record.promotion),
   ("availability", record.availability), ("source_type", record.sourceType), ("source_name", record.sourceName),
   ("source_url", record.sourceUrl), ("observed_at", isoformat record.observedAt), ("expires_at", record.expiresAt.map isoformat),
   ("confidence_score", record.confidenceScore.map (·.text)), ("verification_status", record.verificationStatus),
   ("canonical_name", record.canonicalName)]

/-- A value that may be absent, read where it is there. -/
def readOptional {α β : Type} (read : α → Option β) : Option α → Option (Option β)
  | none => some none
  | some x => (read x).map some

section Reading
variable (fromisoformat : String → Option DateTime)

/-- Nothing where it raises. `str(None)` is a text. -/
def fromJson (data : List (String × Option String)) : Option WrittenRecord := do
  let string (key : String) : Option String := (data.lookup key).map (·.getD "None")
  let get (key : String) : Option String := (data.lookup key).join
  return {
    retailerSlug := ← string "retailer_slug"
    storeExternalCode := ← string "store_external_code"
    productExternalId := ← string "product_external_id"
    productName := ← string "product_name"
    packageQuantity := ← (string "package_quantity").bind decimal?
    packageUnit := ← string "package_unit"
    amount := ← (string "amount").bind decimal?
    currency := ← string "currency"
    sourceType := ← string "source_type"
    sourceName := ← string "source_name"
    observedAt := ← (string "observed_at").bind fromisoformat
    storeProvince := get "store_province"
    storeLocality := get "store_locality"
    storePostalCode := get "store_postal_code"
    brand := get "brand"
    category := get "category"
    barcode := get "barcode"
    unitPrice := ← readOptional decimal? (get "unit_price")
    promotion := get "promotion"
    availability := get "availability"
    sourceUrl := get "source_url"
    expiresAt := ← readOptional fromisoformat ((get "expires_at").filter (· ≠ ""))
    confidenceScore := ← readOptional decimal? (get "confidence_score")
    verificationStatus := ((get "verification_status").filter (· ≠ "")).getD "unverified"
    canonicalName := (get "canonical_name").filter (· ≠ "") }

/-! ### Validation -/

def requiredFields : List String :=
  ["retailer_slug", "store_external_code", "product_external_id", "product_name", "package_quantity", "package_unit", "amount",
   "currency", "source_type", "source_name", "observed_at"]

/-- The factor of a unit to the base unit of its prices. -/
def unitBase : List (String × ℚ) :=
  [("mg", 1 / 1000000), ("g", 1 / 1000), ("kg", 1), ("ml", 1 / 1000), ("cl", 1 / 100), ("l", 1), ("unit", 1), ("ud", 1), ("u", 1)]

/-- `_UNIT_PRICE_TOLERANCE_REL` and `_UNIT_PRICE_TOLERANCE_ABS` -/
def tolerance : ℚ := 1 / 50

def sourceTypes : List String :=
  ["official", "authorized_partner", "community_connector", "open_dataset", "admin_import", "manual_entry", "user_receipt",
   "estimated", "demo"]

def availabilities : List String := ["in_stock", "out_of_stock", "unknown"]

def verificationStatuses : List String := ["unverified", "machine_verified", "human_verified", "disputed"]

def parseDt (value : String) : Option DateTime :=
  let text := Text.strip value
  if text = "" then none
  else
    let text := if text.toList.getLast? = some 'Z' then String.ofList text.toList.dropLast ++ "+00:00" else text
    (fromisoformat text).map aware

def RowError.of (index : Nat) (field message : String) : RowError := ⟨index, some field, message⟩

/-- The errors of a column that holds a number: it is none, or what is asked of it does not hold. -/
def numberErrors (row : RawRow) (index : Nat) (field unreadable refused : String) (refuses : Decimal → Except Signal Bool) :
    Except Signal (List RowError) :=
  match row.optional field, row.numeral field with
  | none, _ => .ok []
  | some _, none => .ok [.of index field unreadable]
  | some _, some d => do return if ← refuses (.ofNumeral d) then [.of index field refused] else []

def amountErrors (row : RawRow) (index : Nat) : Except Signal (List RowError) :=
  numberErrors row index "amount" "importe no numérico" "el importe del envase debe ser > 0 (una ausencia nunca es 0)"
    (·.le (.finite 0))

def packageQuantityErrors (row : RawRow) (index : Nat) : Except Signal (List RowError) :=
  numberErrors row index "package_quantity" "cantidad de envase no numérica" "la cantidad de envase debe ser > 0" (·.le (.finite 0))

def unitPriceErrors (row : RawRow) (index : Nat) : Except Signal (List RowError) :=
  numberErrors row index "unit_price" "precio unitario no numérico" "" fun _ => .ok false

/-- `not (0 <= confidence <= 1)`, the second comparison only after the first one. -/
def outOfRange (confidence : Decimal) : Except Signal Bool := do
  if ← Decimal.le (.finite 0) confidence then return !(← confidence.le (.finite 1)) else return true

def confidenceErrors (row : RawRow) (index : Nat) : Except Signal (List RowError) :=
  numberErrors row index "confidence_score" "confianza no numérica" "confianza fuera de rango [0, 1]" outOfRange

/-- The error of a value that is not among the known ones. -/
def memberErrors (index : Nat) (field : String) (known : List String) (value message : String) : List RowError :=
  if value ∈ known then [] else [.of index field (message ++ value)]

def sourceTypeErrors (row : RawRow) (index : Nat) : List RowError :=
  if row.text "source_type" = "" then []
  else memberErrors index "source_type" sourceTypes (row.text "source_type") "source_type inválido: "

def verificationOf (row : RawRow) : String := (row.optional "verification_status").getD "unverified"

def verificationErrors (row : RawRow) (index : Nat) : List RowError :=
  memberErrors index "verification_status" verificationStatuses (verificationOf row) "verification_status inválido: "

def availabilityErrors (row : RawRow) (index : Nat) : List RowError :=
  match row.optional "availability" with
  | none => []
  | some availability => memberErrors index "availability" availabilities availability "availability inválida: "

/-- The error of a column that holds no datetime. -/
def dateErrors (row : RawRow) (index : Nat) (field message : String) : List RowError :=
  if (row.optional field).isSome ∧ (row.optional field).bind (parseDt fromisoformat) = none then [.of index field message] else []

/-- A decimal with four decimals, as `format` writes it. -/
def fixed (negative : Bool) : Decimal → String
  | .finite x =>
    let n := (Numeric.roundHalfEven (|x| * 10 ^ 4)).natAbs
    String.ofList (signText negative ++ (Nat.toDigits 10 (n / 10 ^ 4) ++ '.' :: Calendar.padded 4 (n % 10 ^ 4)))
  | .infinity _ => String.ofList (signText negative ++ "Infinity".toList)
  | .nan _ => "NaN"

def negative : Numeral → Bool
  | .finite negative _ _ | .infinity negative | .nan negative _ _ => negative

/-- The unit price that is expected, where the given one is too far from it. -/
def incoherent (amount packageQuantity unitPrice : Decimal) (factor : ℚ) : Except Signal (Option Decimal) := do
  let baseQuantity ← packageQuantity.mul (.finite factor)
  if ← Decimal.lt (.finite 0) baseQuantity then
    let expected ← amount.div baseQuantity
    let relative ← expected.mul (.finite tolerance)
    let allowed := if ← relative.lt (.finite tolerance) then .finite tolerance else relative
    let difference ← expected.sub unitPrice
    return if ← allowed.lt difference.abs then some expected else none
  else return none

def coherenceErrors (row : RawRow) (index : Nat) : Except Signal (List RowError) :=
  match row.numeral "unit_price", row.numeral "amount", row.numeral "package_quantity", unitBase.lookup (row.text "package_unit") with
  | some unitPrice, some amount, some packageQuantity, some factor =>
    -- A quantity of zero is as one that is absent.
    if Decimal.ofNumeral packageQuantity = .finite 0 then .ok []
    else do
      match ← incoherent (.ofNumeral amount) (.ofNumeral packageQuantity) (.ofNumeral unitPrice) factor with
      | none => return []
      | some expected => return [.of index "unit_price" ("precio unitario incoherente: esperado ~" ++
          fixed (negative amount) expected ++ " (amount/" ++ row.text "package_unit" ++ " base), recibido " ++ unitPrice.text)]
  | _, _, _, _ => .ok []

/-- The record of a row without errors. -/
def recordOf (row : RawRow) : Option WrittenRecord := do
  let amount ← row.numeral "amount"
  let packageQuantity ← row.numeral "package_quantity"
  let observedAt ← (row.optional "observed_at").bind (parseDt fromisoformat)
  return {
    retailerSlug := row.text "retailer_slug"
    storeExternalCode := row.text "store_external_code"
    productExternalId := row.text "product_external_id"
    productName := row.text "product_name"
    packageQuantity
    packageUnit := row.text "package_unit"
    amount
    currency := row.text "currency"
    sourceType := row.text "source_type"
    sourceName := row.text "source_name"
    observedAt
    storeProvince := row.optional "store_province"
    storeLocality := row.optional "store_locality"
    storePostalCode := row.optional "store_postal_code"
    brand := row.optional "brand"
    category := row.optional "category"
    barcode := row.optional "barcode"
    unitPrice := row.numeral "unit_price"
    promotion := row.optional "promotion"
    availability := row.optional "availability"
    sourceUrl := row.optional "source_url"
    expiresAt := (row.optional "expires_at").bind (parseDt fromisoformat)
    confidenceScore := row.numeral "confidence_score"
    verificationStatus := verificationOf row
    canonicalName := row.optional "canonical_name" }

def buildRecord (row : RawRow) (index : Nat) : Except Signal RowValidation := do
  let missing := (requiredFields.filter fun field => row.text field = "").map (RowError.of index · "campo obligatorio ausente")
  let amount ← amountErrors row index
  let packageQuantity ← packageQuantityErrors row index
  let unitPrice ← unitPriceErrors row index
  let confidence ← confidenceErrors row index
  let known := sourceTypeErrors row index ++ verificationErrors row index ++ availabilityErrors row index
  let dates := dateErrors fromisoformat row index "observed_at" "observed_at no es ISO-8601 válida" ++
    dateErrors fromisoformat row index "expires_at" "expires_at no es ISO-8601 válida"
  let coherence ← coherenceErrors row index
  let errors := missing ++ amount ++ packageQuantity ++ unitPrice ++ confidence ++ known ++ dates ++ coherence
  if errors = [] then return { record := recordOf fromisoformat row }
  else return { errors }

/-- The validation of the rows of a file, counted from one. -/
def validateRows (rows : List RawRow) : Except Signal (List RowValidation) :=
  (rows.zipIdx 1).mapM fun row => buildRecord fromisoformat row.1 row.2

end Reading

/-- The record as it is planned and committed. -/
def WrittenRecord.normalized (r : WrittenRecord) : NormalizedRecord where
  retailerSlug := r.retailerSlug
  storeExternalCode := r.storeExternalCode
  productExternalId := r.productExternalId
  productName := r.productName
  packageQuantity := .ofNumeral r.packageQuantity
  packageUnit := r.packageUnit
  amount := .ofNumeral r.amount
  currency := r.currency
  sourceType := r.sourceType
  sourceName := r.sourceName
  observedAt := ⟨r.observedAt.reading, r.observedAt.offset.getD 0⟩
  storeProvince := r.storeProvince
  storeLocality := r.storeLocality
  storePostalCode := r.storePostalCode
  brand := r.brand
  category := r.category
  barcode := r.barcode
  unitPrice := r.unitPrice.map .ofNumeral
  promotion := r.promotion
  availability := r.availability
  sourceUrl := r.sourceUrl
  expiresAt := r.expiresAt.map fun t => ⟨t.reading, t.offset.getD 0⟩
  confidenceScore := r.confidenceScore.map .ofNumeral
  verificationStatus := r.verificationStatus
  canonicalName := r.canonicalName

/-- What `createImport` takes of the validated rows. -/
def plannedRows (validations : List RowValidation) : List (Option NormalizedRecord) :=
  validations.map fun v => v.record.map (·.normalized)

end CestaPlan.Imports
