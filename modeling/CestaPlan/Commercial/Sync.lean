import CestaPlan.Commercial.Feed

/-! The sync of a store with the commercial feed (`services/commercial_feed_sync.py`): the product of each record is found or created, its
    barcode and its price are appended where they are not there. -/

namespace CestaPlan.Commercial
open Calendar (Instant)
open Ingestion (Decimal DateTime)
open Imports (WrittenRecord DbError toColumn)

structure Retailer where
  id : ℕ
  slug : String

structure Store where
  id : ℕ
  publicId : String
  retailerId : ℕ
  externalCode : Option String := none
  catalogUpdatedAt : Option Instant := none

structure Product where
  id : ℕ
  retailerId : Option ℕ
  externalId : Option String
  name : String
  isSynthetic : Bool := false
  deletedAt : Option Instant := none
deriving DecidableEq

structure ProductBarcode where
  productId : ℕ
  barcode : String
  isPrimary : Bool
deriving DecidableEq

structure ProductPrice where
  retailerId : ℕ
  storeId : ℕ
  productId : ℕ
  amount : Decimal
  currency : String
  packageQuantity : Decimal
  packageUnit : String
  unitPrice : Option Decimal
  promotion : Option String
  availability : Option String
  sourceType : String
  sourceName : String
  sourceUrl : Option String
  observedAt : Instant
  importedAt : Instant
  expiresAt : Option Instant
  confidenceScore : ℚ
  importId : ℕ
  verificationStatus : String
  isSynthetic : Bool
deriving DecidableEq

structure DataSource where
  id : ℕ
  slug : String
  name : String
  sourceType : String
  adapterKey : String
  licenseCode : String
  attributionText : String
  isEnabled : Bool
  url : Option String

structure CommercialFeedSummary where
  fetched : ℕ := 0
  inserted : ℕ := 0
  skippedExisting : ℕ := 0
  skippedNoIdentity : ℕ := 0
  productsCreated : ℕ := 0
  barcodesCreated : ℕ := 0
  /-- `touched_product_ids`, with the product of each record. -/
  touched : List (Option ℕ) := []
  errors : List String := []
  attribution : String := ""
  licenseCode : String := "proprietary"

structure DataImport where
  id : ℕ
  retailerId : ℕ
  dataSourceId : ℕ
  sourceType : String := "authorized_partner"
  status : String := "committed"
  filename : String
  format : String := "json"
  rowCount : ℕ
  dryRun : Bool := false
  committedAt : Instant
  createdCount : ℕ := 0
  updatedCount : ℕ := 0
  skippedCount : ℕ := 0
  okCount : ℕ := 0
  summary : Option CommercialFeedSummary := none

structure FeedSettings where
  sourceName : String
  attribution : String
  licenseCode : String
  baseUrl : String

/-! ### The catalogue -/

/-- Two products with the same entry in `ux_product_retailer_external`. -/
def Product.Clash (p q : Product) : Prop :=
  p.retailerId.isSome ∧ p.externalId.isSome ∧ p.retailerId = q.retailerId ∧ p.externalId = q.externalId

/-- The products and their barcodes; what the indexes of the products keep apart is apart. -/
structure Catalog where
  products : List Product
  barcodes : List ProductBarcode
  ids : products.Pairwise fun p q => p.id ≠ q.id
  keys : products.Pairwise fun p q => ¬ p.Clash q

namespace Catalog
variable (c : Catalog) (retailerId : ℕ) (code : String)

def hasBarcode (productId : ℕ) : Bool := c.barcodes.any fun row => row.productId = productId && row.barcode = code

/-- The products of the retailer that are not deleted and have the barcode. -/
def byBarcode : List Product := c.products.filter fun p => p.retailerId = some retailerId && p.deletedAt.isNone && c.hasBarcode code p.id

/-- The product with the external id, also a deleted one. -/
def byExternalId : Option Product := c.products.find? fun p => p.retailerId = some retailerId && p.externalId = some code

/-- An id that no product has and no barcode refers to. -/
def newId : ℕ := (c.products.map (·.id) ++ c.barcodes.map (·.productId)).foldr max 0 + 1

theorem lt_newId {n : ℕ} (h : n ∈ c.products.map (·.id) ++ c.barcodes.map (·.productId)) : n < c.newId := by
  have hmax : ∀ (l : List ℕ), n ∈ l → n ≤ l.foldr max 0 := fun l hl => by
    induction l with
    | nil => cases hl
    | cons m l ih =>
      rcases List.mem_cons.mp hl with rfl | hl
      · exact le_max_left _ _
      · exact le_trans (ih hl) (le_max_right _ _)
  exact Nat.lt_succ_of_le (hmax _ h)

variable {c retailerId code} in
theorem lt_newId_of_mem {p : Product} (h : p ∈ c.products) : p.id < c.newId :=
  c.lt_newId (List.mem_append_left _ (List.mem_map_of_mem h))

variable {c} in
theorem hasBarcode_newId : c.hasBarcode code c.newId = false := by
  refine List.any_eq_false.mpr fun row hrow h => ?_
  have hid : row.productId = c.newId := of_decide_eq_true (Bool.and_eq_true_iff.mp h).1
  exact absurd hid (ne_of_lt (c.lt_newId (List.mem_append_right _ (List.mem_map_of_mem hrow))))

/-- A product with a new id, whose external id no product of the retailer has. -/
def create (name : String) (h : c.byExternalId retailerId code = none) : Catalog where
  products := c.products ++ [{ id := c.newId, retailerId := some retailerId, externalId := some code, name }]
  barcodes := c.barcodes
  ids := List.pairwise_append.mpr ⟨c.ids, List.pairwise_singleton _ _, fun p hp q hq => by
    obtain rfl := List.mem_singleton.mp hq
    exact ne_of_lt (lt_newId_of_mem hp)⟩
  keys := List.pairwise_append.mpr ⟨c.keys, List.pairwise_singleton _ _, fun p hp q hq hclash => by
    obtain rfl := List.mem_singleton.mp hq
    refine List.find?_eq_none.mp h p hp ?_
    rw [hclash.2.2.1, hclash.2.2.2]
    exact Bool.and_eq_true_iff.mpr ⟨decide_eq_true rfl, decide_eq_true rfl⟩⟩

/-- `_ensure_barcode`, and whether the barcode was added. -/
def ensureBarcode (productId : ℕ) : Catalog × Bool :=
  if c.hasBarcode code productId then (c, false)
  else ({ c with barcodes := c.barcodes ++ [{ productId, barcode := code, isPrimary := !c.barcodes.any (·.productId = productId) }] }, true)

end Catalog

/-- The row that a query without an order gives first: some row of what it finds, the same one wherever it finds the same. -/
structure Planner where
  first : List Product → Option Product
  first_mem : ∀ {l p}, first l = some p → p ∈ l
  first_isSome : ∀ {l}, l ≠ [] → (first l).isSome

/-- `_get_or_create_product`, and whether the product was created. -/
def getOrCreateProduct (planner : Planner) (c : Catalog) (retailerId : ℕ) (externalId productName : String) : Catalog × Product × Bool :=
  match planner.first (c.byBarcode retailerId externalId) with
  | some product => (c, product, false)
  | none => match h : c.byExternalId retailerId externalId with
    | some product => (c, product, false)
    | none =>
      let name := if productName = "" then "Producto " ++ externalId else productName
      (c.create retailerId externalId name h, { id := c.newId, retailerId := some retailerId, externalId := some externalId, name }, true)

/-- The product of a record, with its barcode: whether the product was created, and whether the barcode was added. -/
def placeRecord (planner : Planner) (c : Catalog) (retailerId : ℕ) (record : WrittenRecord) : Catalog × Product × Bool × Bool :=
  let (catalog, product, created) := getOrCreateProduct planner c retailerId record.productExternalId record.productName
  match record.barcode.filter (· ≠ "") with
  | some barcode =>
    let (catalog, added) := catalog.ensureBarcode barcode product.id
    (catalog, product, created, added)
  | none => (catalog, product, created, false)

/-! ### One record -/

structure FeedDb where
  retailers : List Retailer
  catalog : Catalog
  prices : List ProductPrice
  dataSources : List DataSource
  imports : List DataImport

def instantOf (t : DateTime) : Instant := t.reading - t.offset.getD 0

section Sync
variable (planner : Planner) (storeId retailerId importId : ℕ) (now : Instant)

def observationExists (db : FeedDb) (productId : ℕ) (observedAt : Instant) : Bool :=
  db.prices.any fun price => price.storeId = storeId && price.productId = productId && price.observedAt = observedAt

/-- The price of a record, as the columns take its numbers. -/
def priceOf (record : WrittenRecord) (productId : ℕ) : Except DbError ProductPrice := do
  let amount ← toColumn 12 4 (.ofNumeral record.amount)
  let packageQuantity ← toColumn 12 4 (.ofNumeral record.packageQuantity)
  let unitPrice ← record.unitPrice.mapM fun unitPrice => toColumn 14 6 (.ofNumeral unitPrice)
  return {
    retailerId, storeId, productId
    amount, currency := record.currency, packageQuantity, packageUnit := record.packageUnit, unitPrice
    promotion := record.promotion, availability := record.availability
    sourceType := "authorized_partner", sourceName := record.sourceName, sourceUrl := record.sourceUrl
    observedAt := instantOf record.observedAt, importedAt := now, expiresAt := record.expiresAt.map instantOf
    confidenceScore := 7 / 10, importId, verificationStatus := "unverified", isSynthetic := false }

structure Progress where
  db : FeedDb
  summary : CommercialFeedSummary

/-- One record of `sync_commercial_feed`. -/
def syncRecord (s : Progress) (record : WrittenRecord) : Except DbError Progress :=
  if record.productExternalId = "" then
    .ok { s with summary := { s.summary with
      skippedNoIdentity := s.summary.skippedNoIdentity + 1, touched := s.summary.touched ++ [none] } }
  else
    let (catalog, product, created, added) := placeRecord planner s.db.catalog retailerId record
    let db := { s.db with catalog }
    let summary := { s.summary with
      productsCreated := s.summary.productsCreated + created.toNat
      barcodesCreated := s.summary.barcodesCreated + added.toNat
      touched := s.summary.touched ++ [some product.id] }
    if observationExists storeId db product.id (instantOf record.observedAt) then
      .ok { db, summary := { summary with skippedExisting := summary.skippedExisting + 1 } }
    else do
      let price ← priceOf storeId retailerId importId now record product.id
      return { db := { db with prices := db.prices ++ [price] }, summary := { summary with inserted := summary.inserted + 1 } }

end Sync

/-! ### One store -/

def freshId (ids : List ℕ) : ℕ := ids.foldr max 0 + 1

/-- `ensure_commercial_feed_data_source`: one that is created is disabled. -/
def ensureDataSource (settings : FeedSettings) (db : FeedDb) : FeedDb × DataSource :=
  match db.dataSources.find? (·.adapterKey = "commercial_feed") with
  | some source => (db, source)
  | none =>
    let source : DataSource := {
      id := freshId (db.dataSources.map (·.id)), slug := "commercial-feed", name := settings.sourceName, sourceType := "authorized_partner"
      adapterKey := "commercial_feed", licenseCode := settings.licenseCode, attributionText := settings.attribution, isEnabled := false
      url := if settings.baseUrl = "" then none else some settings.baseUrl }
    ({ db with dataSources := db.dataSources ++ [source] }, source)

structure SyncResult where
  db : FeedDb
  store : Store
  summary : CommercialFeedSummary

section Store
variable (planner : Planner) (config : CommercialFeedConfig) (settings : FeedSettings) (fromisoformat : String → Option DateTime)
  (serve : PageParams → Option Response)

/-- The records are fetched for the retailer and the store; what has no date is of the day. -/
def fetchFor (retailer : Retailer) (store : Store) (day : Instant) : Except Ingestion.Signal (List WrittenRecord) :=
  fetchProducts config fromisoformat retailer.slug
    ((store.externalCode.filter (· ≠ "")).getD ("store:" ++ store.publicId)) ⟨day, some 0⟩ serve

/-- The import, with what came of it. -/
def DataImport.finished (batch : DataImport) (summary : CommercialFeedSummary) : DataImport :=
  { batch with
    createdCount := summary.productsCreated, updatedCount := summary.inserted
    skippedCount := summary.skippedExisting + summary.skippedNoIdentity, okCount := summary.inserted, summary := some summary }

def startSummary (records : List WrittenRecord) : CommercialFeedSummary :=
  { fetched := records.length, attribution := settings.attribution, licenseCode := settings.licenseCode }

/-- The records as a batch of their own. -/
def insertRecords (db : FeedDb) (store : Store) (retailer : Retailer) (records : List WrittenRecord) (now : Instant) :
    Except DbError SyncResult := do
  let (db, source) := ensureDataSource settings db
  let batch : DataImport := {
    id := freshId (db.imports.map (·.id)), retailerId := retailer.id, dataSourceId := source.id
    filename := "commercial-feed:" ++ retailer.slug ++ ":" ++ store.publicId, rowCount := records.length, committedAt := now }
  let done ← records.foldlM (syncRecord planner store.id retailer.id batch.id now) ⟨db, startSummary settings records⟩
  return {
    db := { done.db with imports := done.db.imports ++ [batch.finished done.summary] }
    store := { store with catalogUpdatedAt := some now }
    summary := done.summary }

/-- The error of a failed query stands here without what was raised. -/
def syncCommercialFeed (db : FeedDb) (store : Store) (now : Instant) : Except DbError SyncResult :=
  let summary : CommercialFeedSummary := { attribution := settings.attribution, licenseCode := settings.licenseCode }
  match db.retailers.find? (·.id = store.retailerId) with
  | none => .ok { db, store, summary := { summary with errors := ["la tienda no tiene distribuidor asociado"] } }
  | some retailer =>
    match fetchFor config fromisoformat serve retailer store (Calendar.startOf (Calendar.dayOf now)) with
    | .error _ => .ok { db, store, summary := { summary with errors := ["fallo al consultar el feed comercial: "] } }
    | .ok records =>
      if records = [] then .ok { db, store, summary := startSummary settings records }
      else insertRecords planner settings db store retailer records now

end Store
/-! ### How a code is resolved -/

section Resolution
variable {planner : Planner} {c c' : Catalog} {retailerId : ℕ} {code code' name : String} {p q : Product}

/-- The product of a code: by its barcode, or by its external id. -/
def resolve (planner : Planner) (c : Catalog) (retailerId : ℕ) (code : String) : Option Product :=
  (planner.first (c.byBarcode retailerId code)).or (c.byExternalId retailerId code)

theorem Planner.first_nil (planner : Planner) : planner.first [] = none := by
  cases h : planner.first [] with
  | none => rfl
  | some p => cases planner.first_mem h

theorem Planner.first_singleton (planner : Planner) : planner.first [p] = some p := by
  obtain ⟨q, hq⟩ := Option.isSome_iff_exists.mp (planner.first_isSome (List.cons_ne_nil p []))
  rw [hq, List.mem_singleton.mp (planner.first_mem hq)]

/-- What was resolved stays so, and the barcodes stay. -/
structure Grows (planner : Planner) (retailerId : ℕ) (c c' : Catalog) : Prop where
  resolved : ∀ {code p}, resolve planner c retailerId code = some p → resolve planner c' retailerId code = some p
  kept : ∀ {code id}, c.hasBarcode code id = true → c'.hasBarcode code id = true

theorem Grows.refl (c : Catalog) : Grows planner retailerId c c := ⟨id, id⟩

theorem Grows.trans {d : Catalog} (h : Grows planner retailerId c c') (h' : Grows planner retailerId c' d) : Grows planner retailerId c d :=
  ⟨fun hp => h'.resolved (h.resolved hp), fun hb => h'.kept (h.kept hb)⟩

theorem getOrCreateProduct_of_resolve (h : resolve planner c retailerId code = some p) :
    getOrCreateProduct planner c retailerId code name = (c, p, false) := by
  unfold resolve at h
  unfold getOrCreateProduct
  split
  · next q hq =>
    rw [hq, Option.some_or] at h
    rw [Option.some.inj h]
  · next hnone =>
    rw [hnone, Option.none_or] at h
    split
    · next q hq => rw [Option.some.inj (hq.symm.trans h)]
    · next hq => rw [hq] at h; cases h

theorem byBarcode_create (h : c.byExternalId retailerId code = none) (code' : String) :
    (c.create retailerId code name h).byBarcode retailerId code' = c.byBarcode retailerId code' := by
  unfold Catalog.byBarcode
  refine (List.filter_append _ _).trans ?_
  have hnew : c.hasBarcode code' c.newId = false := c.hasBarcode_newId code'
  rw [List.filter_cons_of_neg (by
    show ¬ ((_ && c.hasBarcode code' c.newId) = true)
    rw [hnew, Bool.and_false]
    exact Bool.false_ne_true)]
  exact List.append_nil _

theorem grows_create (h : c.byExternalId retailerId code = none) : Grows planner retailerId c (c.create retailerId code name h) := by
  refine ⟨fun {code' p} hp => ?_, fun hb => hb⟩
  unfold resolve at hp ⊢
  rw [byBarcode_create h]
  cases hfirst : planner.first (c.byBarcode retailerId code') with
  | some q => rwa [hfirst] at hp
  | none =>
    rw [hfirst, Option.none_or] at hp
    rw [Option.none_or]
    exact (List.find?_append ..).trans (by rw [show c.products.find? _ = some p from hp]; rfl)

theorem resolve_create (hfirst : planner.first (c.byBarcode retailerId code) = none) (h : c.byExternalId retailerId code = none) :
    resolve planner (c.create retailerId code name h) retailerId code =
      some { id := c.newId, retailerId := some retailerId, externalId := some code, name } := by
  unfold resolve
  rw [byBarcode_create h, hfirst, Option.none_or]
  refine (List.find?_append ..).trans ?_
  rw [show c.products.find? _ = none from h, Option.none_or]
  exact List.find?_cons_of_pos (Bool.and_eq_true_iff.mpr ⟨decide_eq_true rfl, decide_eq_true rfl⟩)

theorem getOrCreateProduct_spec :
    resolve planner (getOrCreateProduct planner c retailerId code name).1 retailerId code =
      some (getOrCreateProduct planner c retailerId code name).2.1 ∧
    Grows planner retailerId c (getOrCreateProduct planner c retailerId code name).1 := by
  unfold getOrCreateProduct
  split
  · next p hp =>
    refine ⟨?_, .refl c⟩
    unfold resolve
    rw [hp, Option.some_or]
  · next hnone =>
    split
    · next p hp =>
      refine ⟨?_, .refl c⟩
      unfold resolve
      rw [hnone, hp, Option.none_or]
    · next hp => exact ⟨resolve_create hnone hp, grows_create hp⟩

/-! ### Barcodes -/

theorem ensureBarcode_kept {id id' : ℕ} (h : c.hasBarcode code' id' = true) : (c.ensureBarcode code id).1.hasBarcode code' id' = true := by
  unfold Catalog.ensureBarcode
  split
  · exact h
  · exact List.any_append.trans (Bool.or_eq_true_iff.mpr (.inl h))

theorem ensureBarcode_has (id : ℕ) : (c.ensureBarcode code id).1.hasBarcode code id = true := by
  unfold Catalog.ensureBarcode
  split
  · next h => exact h
  · refine List.any_append.trans (Bool.or_eq_true_iff.mpr (.inr ?_))
    exact List.any_eq_true.mpr ⟨_, List.mem_singleton_self _, Bool.and_eq_true_iff.mpr ⟨decide_eq_true rfl, decide_eq_true rfl⟩⟩

theorem hasBarcode_ensure {id id' : ℕ} (h : c.hasBarcode code id = false) :
    (c.ensureBarcode code id).1.hasBarcode code' id' = (c.hasBarcode code' id' || (decide (id = id') && decide (code = code'))) := by
  unfold Catalog.ensureBarcode
  rw [if_neg (by rw [h]; exact Bool.false_ne_true)]
  exact List.any_append.trans (congrArg _ (Bool.or_false _))

theorem ensureBarcode_products (id : ℕ) : (c.ensureBarcode code id).1.products = c.products := by
  unfold Catalog.ensureBarcode
  split <;> rfl

theorem eq_of_id (hp : p ∈ c.products) (hq : q ∈ c.products) (h : p.id = q.id) : p = q := by
  have : Std.Symm fun p q : Product => p.id ≠ q.id := ⟨fun _ _ h => h.symm⟩
  exact by_contra fun hne => c.ids.forall hp hq hne h

theorem byExternalId_of_resolve (h : resolve planner c retailerId code = some p) (hbarcode : c.hasBarcode code p.id = false) :
    c.byBarcode retailerId code = [] ∧ c.byExternalId retailerId code = some p := by
  unfold resolve at h
  cases hfirst : planner.first (c.byBarcode retailerId code) with
  | some q =>
    rw [hfirst, Option.some_or] at h
    obtain rfl := Option.some.inj h
    have hhas := (Bool.and_eq_true_iff.mp (List.mem_filter.mp (planner.first_mem hfirst)).2).2
    rw [hbarcode] at hhas
    cases hhas
  | none =>
    rw [hfirst, Option.none_or] at h
    refine ⟨by_contra fun hne => ?_, h⟩
    have hsome := planner.first_isSome hne
    rw [hfirst] at hsome
    cases hsome

theorem grows_ensureBarcode (h : resolve planner c retailerId code = some p) :
    Grows planner retailerId c (c.ensureBarcode code p.id).1 := by
  refine ⟨fun {code' q} hq => ?_, ensureBarcode_kept⟩
  cases hthere : c.hasBarcode code p.id with
  | true =>
    unfold Catalog.ensureBarcode
    rw [if_pos hthere]
    exact hq
  | false =>
    obtain ⟨hnone, hexternal⟩ := byExternalId_of_resolve h hthere
    have hsame : (c.ensureBarcode code p.id).1.byExternalId retailerId code' = c.byExternalId retailerId code' := by
      unfold Catalog.byExternalId
      rw [ensureBarcode_products]
    unfold resolve at hq ⊢
    by_cases hcode : code = code'
    · subst hcode
      -- Only the product itself has got the barcode.
      rw [hnone, planner.first_nil, Option.none_or, hexternal] at hq
      rw [hsame, hexternal, ← hq]
      cases hfirst : planner.first ((c.ensureBarcode code p.id).1.byBarcode retailerId code) with
      | none => rfl
      | some r =>
        obtain ⟨hr, hcond⟩ := List.mem_filter.mp (planner.first_mem hfirst)
        rw [ensureBarcode_products] at hr
        obtain ⟨hlive, hbarcode⟩ := Bool.and_eq_true_iff.mp hcond
        rw [hasBarcode_ensure hthere, Bool.or_eq_true_iff] at hbarcode
        have hid : p.id = r.id := by
          refine (hbarcode.resolve_left fun hold => ?_) |> Bool.and_eq_true_iff.mp |>.1 |> of_decide_eq_true
          have hmem : r ∈ c.byBarcode retailerId code := List.mem_filter.mpr ⟨hr, Bool.and_eq_true_iff.mpr ⟨hlive, hold⟩⟩
          rw [hnone] at hmem
          cases hmem
        rw [eq_of_id (List.mem_of_find?_eq_some hexternal) hr hid]
        rfl
    · have hbarcodes : (c.ensureBarcode code p.id).1.byBarcode retailerId code' = c.byBarcode retailerId code' := by
        unfold Catalog.byBarcode
        rw [ensureBarcode_products]
        refine List.filter_congr fun r _ => ?_
        rw [hasBarcode_ensure hthere, decide_eq_false hcode, Bool.and_false, Bool.or_false]
      rw [hbarcodes, hsame]
      exact hq

end Resolution

/-! ### Records -/

/-- The barcode of a record, if it has one, is its external id. -/
def Keyed (record : WrittenRecord) : Prop := ∀ code ∈ record.barcode.filter (· ≠ ""), code = record.productExternalId

theorem keyed_of_mapRecord {config : CommercialFeedConfig} {fromisoformat : String → Option DateTime} {slug storeCode : String}
    {default : DateTime} {item : Item} {record : WrittenRecord}
    (h : mapRecord config fromisoformat slug storeCode default item = .ok (some record)) : Keyed record := by
  cases husable : usable config item with
  | false => cases (mapRecord_of_not_usable husable).symm.trans h
  | true =>
    obtain ⟨amount, externalId, hamount, hid⟩ := usable_iff.mp husable
    rw [mapRecord_of_usable hamount hid] at h
    cases hpromotion : promotionOf amount (decimalOrNone (val config item "promo_price")) with
    | error e => rw [hpromotion] at h; cases h
    | ok promotion =>
      rw [hpromotion] at h
      obtain rfl := Option.some.inj (Except.ok.inj h)
      intro code hcode
      have hbarcode : (cleanStr (val config item "barcode")).filter (· ≠ "") = some code := hcode
      unfold externalIdOf at hid
      rw [hbarcode, Option.some_or] at hid
      exact Option.some.inj ((Option.filter_eq_some_iff.mp hid).1)

theorem keyed_of_fetchProducts {config : CommercialFeedConfig} {fromisoformat : String → Option DateTime} {slug storeCode : String}
    {default : DateTime} {serve : PageParams → Option Response} {records : List WrittenRecord}
    (h : fetchProducts config fromisoformat slug storeCode default serve = .ok records) : ∀ record ∈ records, Keyed record := by
  rw [fetchProducts_eq] at h
  cases hresults : (itemsRead config serve).mapM (mapRecord config fromisoformat slug storeCode default) with
  | error e => rw [hresults] at h; cases h
  | ok results =>
    rw [hresults] at h
    obtain rfl := Except.ok.inj h
    intro record hrecord
    obtain ⟨item, -, hmap⟩ := (Runs.exists_of_forall₂ (Runs.mapM_eq_ok_iff.mp hresults)).2 _ (List.reduceOption_mem_iff.mp hrecord)
    exact keyed_of_mapRecord hmap

section Records
variable {planner : Planner} {storeId retailerId importId : ℕ} {now : Instant} {s s' : Progress} {record : WrittenRecord}
  {product : Option ℕ}

/-- All that the sync does for a record is there: its product is found, with its barcode and its price. -/
def Settled (planner : Planner) (storeId retailerId : ℕ) (s : Progress) (record : WrittenRecord) (product : Option ℕ) : Prop :=
  if record.productExternalId = "" then product = none
  else ∃ p, product = some p.id ∧ resolve planner s.db.catalog retailerId record.productExternalId = some p ∧
    (∀ code ∈ record.barcode.filter (· ≠ ""), s.db.catalog.hasBarcode code p.id = true) ∧
    observationExists storeId s.db p.id (instantOf record.observedAt) = true

/-- The part of the database that records are settled in grows. -/
structure Extends (planner : Planner) (storeId retailerId : ℕ) (s s' : Progress) : Prop where
  catalog : Grows planner retailerId s.db.catalog s'.db.catalog
  prices : ∀ {id at'}, observationExists storeId s.db id at' = true → observationExists storeId s'.db id at' = true
  retailers : s'.db.retailers = s.db.retailers

theorem Settled.extends (hs : Settled planner storeId retailerId s record product) (h : Extends planner storeId retailerId s s') :
    Settled planner storeId retailerId s' record product := by
  unfold Settled at hs ⊢
  split
  · next hid => rwa [if_pos hid] at hs
  · next hid =>
    rw [if_neg hid] at hs
    obtain ⟨p, hp, hresolve, hbarcode, hprice⟩ := hs
    exact ⟨p, hp, h.catalog.resolved hresolve, fun code hcode => h.catalog.kept (hbarcode code hcode), h.prices hprice⟩

variable {c : Catalog}

theorem placeRecord_spec (hkeyed : Keyed record) :
    resolve planner (placeRecord planner c retailerId record).1 retailerId record.productExternalId =
      some (placeRecord planner c retailerId record).2.1 ∧
    Grows planner retailerId c (placeRecord planner c retailerId record).1 ∧
    ∀ code ∈ record.barcode.filter (· ≠ ""),
      (placeRecord planner c retailerId record).1.hasBarcode code (placeRecord planner c retailerId record).2.1.id = true := by
  obtain ⟨hresolve, hgrows⟩ := @getOrCreateProduct_spec planner c retailerId record.productExternalId record.productName
  unfold placeRecord
  cases hbarcode : record.barcode.filter (· ≠ "") with
  | none => exact ⟨hresolve, hgrows, fun _ h => by cases h⟩
  | some code =>
    obtain rfl := hkeyed code hbarcode
    have hgrows' := grows_ensureBarcode hresolve
    refine ⟨hgrows'.resolved hresolve, hgrows.trans hgrows', fun code hcode => ?_⟩
    obtain rfl := Option.some.inj hcode
    exact ensureBarcode_has _

theorem placeRecord_settled {p : Product} (hresolve : resolve planner c retailerId record.productExternalId = some p)
    (hbarcode : ∀ code ∈ record.barcode.filter (· ≠ ""), c.hasBarcode code p.id = true) :
    placeRecord planner c retailerId record = (c, p, false, false) := by
  unfold placeRecord
  rw [getOrCreateProduct_of_resolve hresolve]
  cases hcode : record.barcode.filter (· ≠ "") with
  | none => rfl
  | some code =>
    show ((c.ensureBarcode code p.id).1, p, false, (c.ensureBarcode code p.id).2) = _
    unfold Catalog.ensureBarcode
    rw [if_pos (hbarcode code hcode)]

theorem syncRecord_spec (hkeyed : Keyed record) (h : syncRecord planner storeId retailerId importId now s record = .ok s') :
    Extends planner storeId retailerId s s' ∧
      ∃ product, Settled planner storeId retailerId s' record product ∧ s'.summary.touched = s.summary.touched ++ [product] := by
  unfold syncRecord at h
  split at h
  · next hid =>
    obtain rfl := Except.ok.inj h
    exact ⟨⟨.refl _, id, rfl⟩, none, by rw [Settled, if_pos hid], rfl⟩
  · next hid =>
    obtain ⟨hresolve, hgrows, hbarcode⟩ := @placeRecord_spec planner retailerId record s.db.catalog hkeyed
    rcases hplace : placeRecord planner s.db.catalog retailerId record with ⟨catalog, product, created, added⟩
    rw [hplace] at h hresolve hgrows hbarcode
    dsimp only at h
    split at h
    · next hprice =>
      obtain rfl := Except.ok.inj h
      exact ⟨⟨hgrows, id, rfl⟩, some product.id, by rw [Settled, if_neg hid]; exact ⟨product, rfl, hresolve, hbarcode, hprice⟩, rfl⟩
    · obtain ⟨price, hprice, h⟩ := Runs.bind_eq_ok.mp h
      obtain rfl := Except.ok.inj h
      have hkept {id : ℕ} {at' : Instant} (hthere : observationExists storeId s.db id at' = true) :
          (s.db.prices ++ [price]).any (fun price => price.storeId = storeId && price.productId = id && price.observedAt = at') = true :=
        List.any_append.trans (Bool.or_eq_true_iff.mpr (.inl hthere))
      have hnew : (s.db.prices ++ [price]).any (fun price => price.storeId = storeId && price.productId = product.id &&
          price.observedAt = instantOf record.observedAt) = true := by
        refine List.any_append.trans (Bool.or_eq_true_iff.mpr (.inr (List.any_eq_true.mpr ⟨price, List.mem_singleton_self _, ?_⟩)))
        unfold priceOf at hprice
        obtain ⟨amount, -, hprice⟩ := Runs.bind_eq_ok.mp hprice
        obtain ⟨packageQuantity, -, hprice⟩ := Runs.bind_eq_ok.mp hprice
        obtain ⟨unitPrice, -, hprice⟩ := Runs.bind_eq_ok.mp hprice
        obtain rfl := Except.ok.inj hprice
        simp only [decide_true, Bool.and_self]
      exact ⟨⟨hgrows, hkept, rfl⟩, some product.id, by rw [Settled, if_neg hid]; exact ⟨product, rfl, hresolve, hbarcode, hnew⟩, rfl⟩

/-- Nothing has been created. -/
structure Same (s s' : Progress) : Prop where
  db : s'.db = s.db
  inserted : s'.summary.inserted = s.summary.inserted
  productsCreated : s'.summary.productsCreated = s.summary.productsCreated
  barcodesCreated : s'.summary.barcodesCreated = s.summary.barcodesCreated

theorem Same.trans {s'' : Progress} (h : Same s s') (h' : Same s' s'') : Same s s'' :=
  ⟨h'.db.trans h.db, h'.inserted.trans h.inserted, h'.productsCreated.trans h.productsCreated,
    h'.barcodesCreated.trans h.barcodesCreated⟩

theorem syncRecord_settled (h : Settled planner storeId retailerId s record product) :
    ∃ s', syncRecord planner storeId retailerId importId now s record = .ok s' ∧ Same s s' ∧
      s'.summary.touched = s.summary.touched ++ [product] := by
  unfold Settled at h
  unfold syncRecord
  split at h
  · next hid =>
    rw [if_pos hid, h]
    exact ⟨_, rfl, ⟨rfl, rfl, rfl, rfl⟩, rfl⟩
  · next hid =>
    obtain ⟨p, rfl, hresolve, hbarcode, hprice⟩ := h
    rw [if_neg hid, placeRecord_settled hresolve hbarcode]
    dsimp only
    rw [if_pos hprice]
    exact ⟨_, rfl, ⟨rfl, rfl, rfl, rfl⟩, rfl⟩

theorem Same.settled (hsame : Same s s') (h : Settled planner storeId retailerId s record product) :
    Settled planner storeId retailerId s' record product := by
  unfold Settled at h ⊢
  rwa [hsame.db]

end Records

/-! ### Whole runs -/

section Runs
variable {planner : Planner} {config : CommercialFeedConfig} {settings settings' : FeedSettings} {fromisoformat : String → Option DateTime}
  {serve : PageParams → Option Response} {db : FeedDb} {store : Store} {now now' : Instant} {first : SyncResult}

/-- The run was done again: it created nothing, and found the same product for each record. -/
structure Repeats (first second : SyncResult) : Prop where
  catalog : second.db.catalog = first.db.catalog
  prices : second.db.prices = first.db.prices
  inserted : second.summary.inserted = 0
  productsCreated : second.summary.productsCreated = 0
  barcodesCreated : second.summary.barcodesCreated = 0
  touched : second.summary.touched = first.summary.touched

theorem ensureDataSource_kept (settings : FeedSettings) (db : FeedDb) : (ensureDataSource settings db).1.catalog = db.catalog ∧
    (ensureDataSource settings db).1.prices = db.prices ∧ (ensureDataSource settings db).1.retailers = db.retailers := by
  unfold ensureDataSource
  split <;> exact ⟨rfl, rfl, rfl⟩

theorem syncRecords_twice {storeId retailerId importId importId' : ℕ} {records : List WrittenRecord} {s s' t : Progress}
    (hkeyed : ∀ record ∈ records, Keyed record)
    (h : records.foldlM (syncRecord planner storeId retailerId importId now) s = .ok s') (hstart : s.summary.touched = [])
    (hcatalog : t.db.catalog = s'.db.catalog) (hprices : t.db.prices = s'.db.prices) (ht : t.summary.touched = []) :
    ∃ t', records.foldlM (syncRecord planner storeId retailerId importId' now') t = .ok t' ∧ Same t t' ∧
      t'.summary.touched = s'.summary.touched := by
  obtain ⟨products, htouched, hsettled⟩ := Runs.foldlM_marks (M := Settled planner storeId retailerId)
    (fun hb hstep => (syncRecord_spec (hkeyed _ hb) hstep).2)
    (fun hb hstep hmark => Settled.extends hmark (syncRecord_spec (hkeyed _ hb) hstep).1) h
  have hagain : List.Forall₂ (Settled planner storeId retailerId t) records products := hsettled.imp fun record product hmark => by
    unfold Settled observationExists at hmark ⊢
    rwa [hcatalog, hprices]
  have hidle {s : Progress} {record : WrittenRecord} {product : Option ℕ} (hmark : Settled planner storeId retailerId s record product) :=
    @syncRecord_settled planner storeId retailerId importId' now' s record product hmark
  obtain ⟨t', hrun, hsame, htouched'⟩ : ∃ t', records.foldlM (syncRecord planner storeId retailerId importId' now') t = .ok t' ∧
      Same t t' ∧ t'.summary.touched = t.summary.touched ++ products :=
    Runs.foldlM_idle (M := Settled planner storeId retailerId) (fun _ => ⟨rfl, rfl, rfl, rfl⟩) Same.trans Same.settled hidle hagain
  refine ⟨t', hrun, hsame, ?_⟩
  rw [htouched', htouched, hstart, ht]

theorem insertRecords_settled {retailer : Retailer} {importId : ℕ} {records : List WrittenRecord} {s done : Progress}
    (hkeyed : ∀ record ∈ records, Keyed record)
    (hdone : records.foldlM (syncRecord planner first.store.id retailer.id importId now) s = .ok done) (hstart : s.summary.touched = [])
    (hcatalog : first.db.catalog = done.db.catalog) (hprices : first.db.prices = done.db.prices) (hsummary : first.summary = done.summary) :
    ∃ second, insertRecords planner settings' first.db first.store retailer records now' = .ok second ∧ Repeats first second := by
  obtain ⟨hcatalog', hprices', -⟩ := ensureDataSource_kept settings' first.db
  obtain ⟨again, hagain, hsame, htouched⟩ : ∃ t', records.foldlM
      (syncRecord planner first.store.id retailer.id (freshId ((ensureDataSource settings' first.db).1.imports.map (·.id))) now')
      ⟨(ensureDataSource settings' first.db).1, startSummary settings' records⟩ = .ok t' ∧
      Same ⟨(ensureDataSource settings' first.db).1, startSummary settings' records⟩ t' ∧ t'.summary.touched = done.summary.touched :=
    syncRecords_twice hkeyed hdone hstart (hcatalog'.trans hcatalog) (hprices'.trans hprices) rfl
  refine ⟨_, Runs.bind_eq_ok.mpr ⟨again, hagain, rfl⟩, ?_, ?_, hsame.inserted, hsame.productsCreated, hsame.barcodesCreated, ?_⟩
  · exact (congrArg FeedDb.catalog hsame.db).trans hcatalog'
  · exact (congrArg FeedDb.prices hsame.db).trans hprices'
  · rw [hsummary]
    exact htouched

theorem insertRecords_twice {retailer : Retailer} {records : List WrittenRecord} (hkeyed : ∀ record ∈ records, Keyed record)
    (h : insertRecords planner settings db store retailer records now = .ok first) :
    first.db.retailers = db.retailers ∧ first.store = { store with catalogUpdatedAt := some now } ∧
      ∃ second, insertRecords planner settings' first.db first.store retailer records now' = .ok second ∧ Repeats first second := by
  obtain ⟨done, hdone, hfirst⟩ := Runs.bind_eq_ok.mp h
  replace hfirst := Except.ok.inj hfirst
  obtain ⟨-, -, hretailers⟩ := ensureDataSource_kept settings db
  have hkept : done.db.retailers = db.retailers := Runs.foldlM_keep (P := fun s => s.db.retailers = db.retailers)
    (fun hb hstep hs => (syncRecord_spec (hkeyed _ hb) hstep).1.retailers.trans hs) hdone hretailers
  have hstore : first.store = { store with catalogUpdatedAt := some now } := by rw [← hfirst]
  have hid : first.store.id = store.id := by rw [hstore]
  rw [← hid] at hdone
  refine ⟨by rw [← hfirst]; exact hkept, hstore, insertRecords_settled hkeyed hdone rfl ?_ ?_ ?_⟩
  all_goals rw [← hfirst]

/-- A second sync of the same feed on the same day creates no product, no barcode and no price, and finds the same product for each
    record. -/
theorem sync_twice (h : syncCommercialFeed planner config settings fromisoformat serve db store now = .ok first)
    (hday : Calendar.dayOf now' = Calendar.dayOf now) :
    ∃ second, syncCommercialFeed planner config settings' fromisoformat serve first.db first.store now' = .ok second ∧
      Repeats first second := by
  unfold syncCommercialFeed at h ⊢
  dsimp only at h ⊢
  rw [hday]
  cases hretailer : db.retailers.find? (·.id = store.retailerId) with
  | none =>
    rw [hretailer] at h
    obtain rfl := Except.ok.inj h
    rw [hretailer]
    exact ⟨_, rfl, rfl, rfl, rfl, rfl, rfl, rfl⟩
  | some retailer =>
    rw [hretailer] at h
    dsimp only at h
    cases hfetch : fetchFor config fromisoformat serve retailer store (Calendar.startOf (Calendar.dayOf now)) with
    | error e =>
      rw [hfetch] at h
      obtain rfl := Except.ok.inj h
      rw [hretailer]
      dsimp only
      rw [hfetch]
      exact ⟨_, rfl, rfl, rfl, rfl, rfl, rfl, rfl⟩
    | ok records =>
      rw [hfetch] at h
      dsimp only at h
      split at h
      · next hnone =>
        obtain rfl := Except.ok.inj h
        rw [hretailer]
        dsimp only
        rw [hfetch]
        dsimp only
        rw [if_pos hnone]
        exact ⟨_, rfl, rfl, rfl, rfl, rfl, rfl, rfl⟩
      · next hsome =>
        obtain ⟨hretailers, hstore, hagain⟩ := insertRecords_twice (keyed_of_fetchProducts hfetch) h
        have hretailer' : first.db.retailers.find? (·.id = first.store.retailerId) = some retailer := by
          rw [hretailers, hstore]
          exact hretailer
        have hfetch' : fetchFor config fromisoformat serve retailer first.store (Calendar.startOf (Calendar.dayOf now)) = .ok records := by
          rw [hstore]
          exact hfetch
        rw [hretailer']
        dsimp only
        rw [hfetch']
        dsimp only
        rw [if_neg hsome]
        exact hagain

end Runs

/-! ### Milk and bread -/

/-- The first row of the table. -/
def tableOrder : Planner where
  first := List.head?
  first_mem := List.mem_of_mem_head?
  first_isSome := List.isSome_head?.mpr

def milkAndBread : Response where
  statusCode := 200
  json := some (.arr [.obj [("ean", .str "8480000123456"), ("price", .float "1.5")], .obj [("ref", .str "PAN-1"), ("price", .int 2)]])

/-- Milk is known by its code, bread by the reference of the provider. -/
def milkAndBreadFeed : CommercialFeedConfig where
  pageSize_pos := Nat.zero_lt_succ 99
  fieldMap := [("barcode", "ean"), ("product_ref", "ref"), ("amount", "price")]

def milkAndBreadDb : FeedDb where
  retailers := [{ id := 1, slug := "mercadona" }]
  catalog := { products := [], barcodes := [], ids := .nil, keys := .nil }
  prices := []
  dataSources := []
  imports := []

def milkAndBreadSync (db : FeedDb) (store : Store) : Except DbError SyncResult :=
  syncCommercialFeed tableOrder milkAndBreadFeed ⟨"Feed", "", "proprietary", ""⟩ (fun _ => none) (fun _ => some milkAndBread) db store 0

theorem milkAndBread_twice : ∃ first second, milkAndBreadSync milkAndBreadDb { id := 1, publicId := "a", retailerId := 1 } = .ok first ∧
    first.summary.productsCreated = 2 ∧ milkAndBreadSync first.db first.store = .ok second ∧ Repeats first second := by
  have hcreated : (milkAndBreadSync milkAndBreadDb { id := 1, publicId := "a", retailerId := 1 }).toOption.any
      (·.summary.productsCreated = 2) = true := by decide +kernel
  cases hfirst : milkAndBreadSync milkAndBreadDb { id := 1, publicId := "a", retailerId := 1 } with
  | error e => rw [hfirst] at hcreated; cases hcreated
  | ok first =>
    rw [hfirst] at hcreated
    obtain ⟨second, hsecond, hrepeats⟩ := sync_twice hfirst rfl
    exact ⟨first, second, rfl, of_decide_eq_true hcreated, hsecond, hrepeats⟩

end CestaPlan.Commercial
